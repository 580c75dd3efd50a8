import ChainAlerts.FilterLists
import ChainAlerts.Proofs.JsonDocument
import ChainAlerts.Proofs.SubscriberCodec

/-! The codecs of the three kinds of records. Each reads a well-formed record back from its payload exactly as
it was, in the same order and with every number in the form in which it was written; and whatever a codec
reads from a document is well-formed, so what is stored once can be changed and stored again. -/

namespace ChainAlerts

open LogFilter

def Codec.RoundTrips {ρ : Type} (codec : Codec ρ) (r : ρ) : Prop :=
  ∃ payload, codec.encode r = .ok payload ∧ codec.decode payload = .ok r

theorem Subscriber.roundTrips {s : Subscriber} (h : s.WellFormed) : Subscriber.codec.RoundTrips s := by
  refine ⟨s.toJson, ?_, ofJson_toJson h⟩
  change s.write = _
  rw [write, if_pos h.writable]

theorem LogFilter.readNetwork_writeNetwork (testnet : Option Bool) :
    readNetwork (writeNetwork testnet) = testnet := by
  cases testnet with
  | none => rfl
  | some b => cases b <;> rfl

theorem TextFilter.ofJson_toJson (f : TextFilter) : ofJson f.toJson = .ok f := by
  simp [ofJson, toJson, Json.fieldOrNull_obj, readNetwork_writeNetwork, Json.text]

namespace StructuredFilter

variable {versions : VersionScheme}

/-- A filter whose requirement on the version, if there is one, is what its text denotes. -/
def Proper (f : StructuredFilter) (versions : VersionScheme) : Prop :=
  ∀ r ∈ f.version, Requirement.parse r.text versions = .ok r

theorem readRequirement_written {f : StructuredFilter} (h : f.Proper versions) :
    readRequirement (Json.ofText? (f.version.map (·.text))) versions = .ok f.version := by
  cases hversion : f.version with
  | none => rfl
  | some r =>
      rw [Option.map_some, Json.ofText?, readRequirement, h r hversion]
      rfl

theorem ofJson_toJson {f : StructuredFilter} (h : f.Proper versions) : ofJson f.toJson versions = .ok f := by
  simp [ofJson, toJson, Json.fieldOrNull_obj, readNetwork_writeNetwork, readRequirement_written h]

theorem text_of_parse {s : String} {r : Requirement} (h : Requirement.parse s versions = .ok r) : r.text = s := by
  rw [Requirement.parse] at h
  simp only at h
  split at h
  · cases h
  · obtain ⟨_, -, h⟩ := except_bind_eq_ok.mp h
    rw [← Except.ok.inj h]

theorem proper_of_ofJson {v : Json} {f : StructuredFilter} (h : ofJson v versions = .ok f) : f.Proper versions := by
  obtain ⟨testnet, -, h⟩ := except_bind_eq_ok.mp h
  obtain ⟨account, -, h⟩ := except_bind_eq_ok.mp h
  obtain ⟨predecessor, -, h⟩ := except_bind_eq_ok.mp h
  obtain ⟨standard, -, h⟩ := except_bind_eq_ok.mp h
  obtain ⟨stored, -, h⟩ := except_bind_eq_ok.mp h
  obtain ⟨event, -, h⟩ := except_bind_eq_ok.mp h
  obtain ⟨version, hversion, h⟩ := except_bind_eq_ok.mp h
  obtain rfl := Except.ok.inj h
  intro r hr
  obtain rfl := Option.mem_def.mp hr
  rw [readRequirement.eq_def] at hversion
  split at hversion
  · cases hversion
  next s =>
    obtain ⟨r', hparse, heq⟩ := except_map_eq_ok.mp hversion
    obtain rfl := Option.some.inj heq
    rw [text_of_parse hparse]
    exact hparse
  · cases hversion

end StructuredFilter

namespace LogKind

variable {log filter : Type} {kind : LogKind log filter}

/-- A list of filters comes back as it was if each of them does. -/
theorem readFilters_writeFilters {filters : List filter} (h : ∀ f ∈ filters, kind.read (kind.write f) = .ok f) :
    kind.readFilters (kind.writeFilters filters) = .ok filters := by
  have hfilters : (filters.map kind.write).mapM kind.read = .ok filters := mapM_map_eq_ok h
  simp [readFilters, writeFilters, Json.elements, -List.mapM_map, hfilters]

theorem roundTrips {bot : Int} {filters : List filter} (h : ∀ f ∈ filters, kind.read (kind.write f) = .ok f) :
    (FilterLists.store kind bot).codec.RoundTrips filters :=
  ⟨kind.writeFilters filters, rfl, readFilters_writeFilters h⟩

theorem read_of_readFilters {v : Json} {filters : List filter} (h : kind.readFilters v = .ok filters) :
    ∀ f ∈ filters, ∃ item, kind.read item = .ok f := by
  obtain ⟨stored, -, h⟩ := except_bind_eq_ok.mp h
  obtain ⟨items, -, h⟩ := except_bind_eq_ok.mp h
  intro f hf
  obtain ⟨item, -, hread⟩ := exists_of_mem_mapM h f hf
  exact ⟨item, hread⟩

end LogKind

/-- Every well-formed record of each kind comes back from its payload as it was, and every record that is read
from a document is well-formed, so it comes back when it is stored again. A payload that is read from a text is a
document, whatever the text. None of this depends on how versions are numbered. -/
theorem records_round_trip (versions : VersionScheme) (bot : Int) :
    (∀ s : Subscriber, s.WellFormed → Subscriber.codec.RoundTrips s) ∧
    (∀ filters, (FilterLists.store .text bot).codec.RoundTrips filters) ∧
    (∀ filters, (∀ f ∈ filters, f.Proper versions) →
      (FilterLists.store (.structured versions) bot).codec.RoundTrips filters) ∧
    (∀ text payload, Json.parse text = .ok payload → payload.isDocument) ∧
    ∀ payload : Json, payload.isDocument →
      (∀ s, Subscriber.codec.decode payload = .ok s → s.WellFormed ∧ Subscriber.codec.RoundTrips s) ∧
      (∀ filters, (FilterLists.store .text bot).codec.decode payload = .ok filters →
        (FilterLists.store .text bot).codec.RoundTrips filters) ∧
      ∀ filters, (FilterLists.store (.structured versions) bot).codec.decode payload = .ok filters →
        (∀ f ∈ filters, f.Proper versions) ∧
          (FilterLists.store (.structured versions) bot).codec.RoundTrips filters := by
  have htext : ∀ filters, (FilterLists.store .text bot).codec.RoundTrips filters := fun filters =>
    LogKind.roundTrips fun f _ => f.ofJson_toJson
  have hstructured : ∀ filters : List StructuredFilter, (∀ f ∈ filters, f.Proper versions) →
      (FilterLists.store (.structured versions) bot).codec.RoundTrips filters := fun filters hproper =>
    LogKind.roundTrips fun f hf => StructuredFilter.ofJson_toJson (hproper f hf)
  have hparsed : ∀ text payload, Json.parse text = .ok payload → payload.isDocument := fun text payload =>
    Json.isDocument_of_parse
  refine ⟨fun s => Subscriber.roundTrips, htext, hstructured, hparsed, fun payload hpayload => ⟨?_, ?_, ?_⟩⟩
  · intro s hdecode
    have hs := Subscriber.wellFormed_of_ofJson hpayload hdecode
    exact ⟨hs, Subscriber.roundTrips hs⟩
  · exact fun filters _ => htext filters
  · intro filters hdecode
    have hproper : ∀ f ∈ filters, f.Proper versions := by
      intro f hf
      obtain ⟨item, hread⟩ := LogKind.read_of_readFilters hdecode f hf
      exact StructuredFilter.proper_of_ofJson hread
    exact ⟨hproper, hstructured filters hproper⟩

/-- A record with tokens of both kinds, numbers that are none or zero with a sign, and components out of their
usual order. -/
def variedRecord : Subscriber where
  enabled := false
  tokens := [
    (.prelaunch (-7), {
      sells := true, minAmount := .usd (.finite true 0 (-7)), currency := .token
      attachments := [⟨.nan true true 12, ⟨.audio, "song"⟩⟩] }),
    (.fungible "meme-cooking.near", {
      minAmount := .token (-1000), links := [⟨"", "https://a.b"⟩], buttons := [[], [⟨"x", "y"⟩]]
      components := [.txLink, .whaleAlert (.infinite true), .emoji "" (.finite false 1500 1000000) (-3)] })]

/-- A payload that files one token under two keys. -/
def collapsingPayload : Json :=
  .obj [("tokens", .obj [
    ("meme-cooking.near:7", .obj [("buys", .null)]),
    ("meme-cooking.near:07",
    .obj [("min_amount", .obj [("type", .str "token"), ("amount", .float (.finite false 3 1))])])])]

theorem variedRecord_wellFormed : variedRecord.WellFormed where
  tokens := by decide
  proper := by
    intro entry hmem
    have hcases : entry ∈ variedRecord.tokens := hmem
    simp only [variedRecord, List.mem_cons, List.not_mem_nil, or_false] at hcases
    rcases hcases with rfl | rfl
    · exact ⟨by decide, by decide, by decide, by decide, by decide⟩
    · exact ⟨by decide, by decide, by decide, by decide, by decide⟩
  writable := by decide

theorem records_round_trip_varied :
    Subscriber.codec.RoundTrips variedRecord ∧
    ∃ s, Subscriber.codec.decode collapsingPayload = .ok s ∧ s.tokens.map (·.1) = [.prelaunch 7] ∧
      s.WellFormed ∧ Subscriber.codec.RoundTrips s := by
  obtain ⟨hrecords, -, -, -, hpayloads⟩ := records_round_trip .standard 1
  have htokens : (Subscriber.codec.decode collapsingPayload).toOption.map (·.tokens.map (·.1)) =
      some [.prelaunch 7] := by decide +kernel
  refine ⟨hrecords variedRecord variedRecord_wellFormed, ?_⟩
  cases hdecode : Subscriber.codec.decode collapsingPayload with
  | error f =>
      rw [hdecode] at htokens
      cases htokens
  | ok s =>
      rw [hdecode] at htokens
      exact ⟨s, rfl, Option.some.inj htokens, (hpayloads collapsingPayload (by decide +kernel)).1 s hdecode⟩

end ChainAlerts
