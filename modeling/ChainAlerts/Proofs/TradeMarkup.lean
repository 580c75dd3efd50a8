import ChainAlerts.TradeNote
import ChainAlerts.Proofs.LogMarkup

/-! What a chat shows of the notification of a trade. Its text is put together from parts: a bold headline, one line for
each component that has something to show, and a line of links. A part reads the same wherever it stands in plain text,
and a reader that comes to a line break may stop, so the parts can be read one by one. Texts that come from outside are
escaped as a whole, but for the signs of emoji components and the addresses of links: these are put into the markup as
they are. -/

namespace ChainAlerts

namespace Markdown

/-- What a notification shows: a character, link or block, bold text, or code within a line. -/
inductive Span where
  | piece (p : Piece)
  | bold (content : List Char)
  | code (content : List Char)
  deriving DecidableEq, Repr

/-- Whether a reader is within bold text or code. -/
inductive Within where
  | text
  | bold (seen : List Char)
  | code (seen : List Char)
  deriving DecidableEq

/-- A reader of whole notifications. Text, links and blocks it leaves to another reader, of what came after the last
bold text or code. -/
structure Scan where
  within : Within := .text
  reader : Reader := {}
  spans : List Span := []

theorem Reader.step_of_run {r r' : Reader} {sign : Char × Bool} {rest : List (Char × Bool)}
    (h : r.run (sign :: rest) = some r') : ∃ next, r.step sign = some next ∧ next.run rest = some r' :=
  Option.bind_eq_some_iff.mp h

namespace Scan

/-- All that was read. -/
def all (s : Scan) : List Span := s.spans ++ s.reader.pieces.map .piece

/-- Two backticks without a third are code without content. -/
def settled (s : Scan) : Scan :=
  if s.reader.place = .opening 0 then { spans := s.all ++ [.code []] } else s

/-- A character that starts bold text, or that follows a single backtick. -/
def start? (s : Scan) (sign : Char × Bool) : Option Scan :=
  if s.reader.place = .plain ∧ sign = ('*', false) then some { within := .bold [], spans := s.all }
  else if s.reader.place = .opening 1 then some { within := .code [sign.1], spans := s.all }
  else none

/-- Reads one character. -/
def step (s : Scan) (sign : Char × Bool) : Option Scan :=
  let (c, literal) := sign
  match s.within with
  | .text =>
    match s.reader.step sign with
    | some reader => some { s with reader }
    | none =>
      match s.settled.reader.step sign with
      | some reader => some { s.settled with reader }
      | none => s.settled.start? sign
  | .bold seen =>
    if literal || c ∉ reserved then some { s with within := .bold (seen ++ [c]) }
    else if c = '*' then some { spans := s.spans ++ [.bold seen] }
    else none
  | .code seen =>
    if literal || c ≠ Char.ofNat 96 then some { s with within := .code (seen ++ [c]) }
    else some { spans := s.spans ++ [.code seen] }

/-- Reads a text on. -/
def run (s : Scan) (cs : List (Char × Bool)) : Option Scan := cs.foldlM step s

/-- A reader in plain text that has read so much. -/
structure InText (s : Scan) (done : List Span) : Prop where
  within : s.within = .text
  place : s.reader.place = .plain
  all : s.all = done

/-- A reader that may stop: it is in plain text, or two backticks have yet to turn out to be no fence. -/
structure MayStop (s : Scan) (done : List Span) : Prop where
  within : s.within = .text
  settled : InText s.settled done

variable {s s' : Scan} {done : List Span}

theorem InText.mayStop (h : InText s done) : MayStop s done where
  within := h.within
  settled := by
    rw [Scan.settled, if_neg (by rw [h.place]; exact nofun)]
    exact h

theorem run_cons {sign : Char × Bool} (h : s.step sign = some s') (rest : List (Char × Bool)) :
    s.run (sign :: rest) = s'.run rest := by
  rw [run, List.foldlM_cons, h]
  rfl

theorem run_append {cs : List (Char × Bool)} (h : s.run cs = some s') (rest : List (Char × Bool)) :
    s.run (cs ++ rest) = s'.run rest := by
  rw [run] at h ⊢
  rw [List.foldlM_append, h]
  rfl

/-- What the other reader reads is read so. -/
theorem run_reader {r r' : Reader} {cs : List (Char × Bool)} (h : r.run cs = some r') (spans : List Span) :
    run ⟨.text, r, spans⟩ cs = some ⟨.text, r', spans⟩ := by
  induction cs generalizing r with
  | nil =>
      obtain rfl := Option.some.inj h
      rfl
  | cons sign rest ih =>
      obtain ⟨next, hstep, hrest⟩ := Reader.step_of_run h
      have htaken : step ⟨.text, r, spans⟩ sign = some ⟨.text, next, spans⟩ := by simp [step, hstep]
      rw [run_cons htaken, ih hrest]

end Scan

/-- What a whole notification shows, if it is well-formed markup. -/
def read? (s : String) : Option (List Span) := do
  let scan ← Scan.run {} (signs s.toList)
  if scan.within = .text ∧ scan.settled.reader.place = .plain then some scan.settled.all else none

/-- After a backslash that nothing follows a reader is not in plain text. -/
theorem Reader.place_of_backslash {r r' : Reader} (h : r.step ('\\', false) = some r') : r'.place ≠ .plain := by
  have hreserved : '\\' ∈ reserved := by decide
  obtain ⟨place, pieces⟩ := r
  cases place with
  | plain | label | labelled => simp [Reader.step, hreserved] at h
  | url label seen =>
      obtain rfl := Option.some.inj h
      simp
  | code seen =>
      obtain rfl := Option.some.inj h
      simp
  | opening more | closing seen more => cases more <;> cases h

/-- So a text that is read to plain text has no backslash at its end that could hide what comes after it. -/
theorem signs_append_of_run {cs : List Char} {r r' : Reader} (h : r.run (signs cs) = some r')
    (hplain : r'.place = .plain) (rest : List Char) : signs (cs ++ rest) = signs cs ++ signs rest := by
  induction cs using signs.induct generalizing r with
  | case1 => rfl
  | case2 c cs ih =>
      obtain ⟨next, -, hrest⟩ := Reader.step_of_run h
      exact congrArg ((c, true) :: ·) (ih hrest)
  | case3 c cs hne ih =>
      rw [signs.eq_3 c cs hne] at h
      obtain ⟨next, hstep, hrest⟩ := Reader.step_of_run h
      by_cases hc : c = '\\'
      · subst hc
        cases cs with
        | nil =>
            obtain rfl := Option.some.inj hrest
            exact absurd hplain (Reader.place_of_backslash hstep)
        | cons d cs => exact absurd rfl (hne d cs rfl)
      · rw [List.cons_append, signs_cons_of_ne hc, signs_cons_of_ne hc, ih hrest, List.cons_append]

/-- A part of a text that reads the same wherever it stands in plain text. -/
def Reads (cs : List Char) (spans : List Span) : Prop :=
  ∀ (s : Scan) (done : List Span) (rest : List Char), s.InText done →
    ∃ s' : Scan, s'.InText (done ++ spans) ∧ s.run (signs (cs ++ rest)) = s'.run (signs rest)

/-- A part of a text that reads the same, if no backtick follows. -/
def Ends (cs : List Char) (spans : List Span) : Prop :=
  ∀ (s : Scan) (done : List Span) (rest : List Char), s.InText done →
    ∃ s' : Scan, s'.MayStop (done ++ spans) ∧ s.run (signs (cs ++ rest)) = s'.run (signs rest)

section Parts

variable {cs cs' : List Char} {spans spans' : List Span}

theorem Reads.ends (h : Reads cs spans) : Ends cs spans := by
  intro s done rest hs
  obtain ⟨s', hs', hrun⟩ := h s done rest hs
  exact ⟨s', hs'.mayStop, hrun⟩

theorem Reads.appendEnds (h : Reads cs spans) (h' : Ends cs' spans') : Ends (cs ++ cs') (spans ++ spans') := by
  intro s done rest hs
  obtain ⟨t, ht, hrun⟩ := h s done (cs' ++ rest) hs
  obtain ⟨u, hu, hrun'⟩ := h' t (done ++ spans) rest ht
  rw [List.append_assoc] at hu
  exact ⟨u, hu, by rw [List.append_assoc, hrun, hrun']⟩

theorem Reads.append (h : Reads cs spans) (h' : Reads cs' spans') : Reads (cs ++ cs') (spans ++ spans') := by
  intro s done rest hs
  obtain ⟨t, ht, hrun⟩ := h s done (cs' ++ rest) hs
  obtain ⟨u, hu, hrun'⟩ := h' t (done ++ spans) rest ht
  rw [List.append_assoc] at hu
  exact ⟨u, hu, by rw [List.append_assoc, hrun, hrun']⟩

theorem reads_nil : Reads [] [] := fun s done rest hs => ⟨s, by rwa [List.append_nil], rfl⟩

/-- What shows the same in plain text reads so in a notification. -/
theorem Shows.reads {pieces : List Piece} (h : Shows cs pieces) : Reads cs (pieces.map .piece) := by
  rintro ⟨within, ⟨place, before⟩, spans⟩ done rest ⟨hwithin, hplace, hall⟩
  obtain rfl : within = .text := hwithin
  obtain rfl : place = .plain := hplace
  subst hall
  have hrun : (⟨.plain, before⟩ : Reader).run (signs cs) = some ⟨.plain, before ++ pieces⟩ := by
    have hshows := h before []
    rwa [List.append_nil] at hshows
  refine ⟨⟨.text, ⟨.plain, before ++ pieces⟩, spans⟩, ⟨rfl, rfl, ?_⟩, ?_⟩
  · simp [Scan.all]
  · rw [signs_append_of_run hrun rfl, Scan.run_append (Scan.run_reader hrun spans)]

theorem reads_escape (s : String) : Reads (escape s).toList ((literally s).map .piece) := (shows_escape s).reads

theorem Scan.run_bold (cs : List Char) (spans : List Span) :
    Scan.run { within := .bold [], spans } (cs.map fun c => (c, decide (c ∈ reserved))) =
      some { within := .bold cs, spans } := by
  refine foldlM_map (fun seen => (⟨.bold seen, {}, spans⟩ : Scan)) (fun c _ seen => ?_) []
  by_cases hc : c ∈ reserved <;> simp [Scan.step, hc]

theorem Scan.run_code (seen cs : List Char) (spans : List Span) :
    Scan.run { within := .code seen, spans } (cs.map fun c => (c, decide (c ∈ reserved))) =
      some { within := .code (seen ++ cs), spans } := by
  refine foldlM_map (fun seen => (⟨.code seen, {}, spans⟩ : Scan)) (fun c _ seen => ?_) seen
  by_cases hc : c = Char.ofNat 96
  · have hreserved : Char.ofNat 96 ∈ reserved := by decide
    simp [Scan.step, hc, hreserved]
  · simp [Scan.step, hc]

theorem reads_bold (s : String) : Reads ("*" ++ escape s ++ "*").toList [.bold s.toList] := by
  rintro ⟨within, ⟨place, before⟩, spans⟩ done rest ⟨hwithin, hplace, hall⟩
  obtain rfl : within = .text := hwithin
  obtain rfl : place = .plain := hplace
  subst hall
  have htext : ("*" ++ escape s ++ "*").toList ++ rest = '*' :: (escapeChars s.toList ++ '*' :: rest) := by
    simp [escape, String.toList_append]
  refine ⟨{ spans := Scan.all ⟨.text, ⟨.plain, before⟩, spans⟩ ++ [.bold s.toList] },
    ⟨rfl, rfl, by simp [Scan.all]⟩, ?_⟩
  rw [htext, signs_cons_of_ne (by decide), signs_escapeChars, signs_cons_of_ne (by decide)]
  rw [Scan.run_cons rfl, Scan.run_append (Scan.run_bold s.toList _), Scan.run_cons rfl]
  rfl

/-- The sign between which code stands. -/
def tick : String := String.singleton (Char.ofNat 96)

theorem ends_code (s : String) : Ends (tick ++ escape s ++ tick).toList [.code s.toList] := by
  rintro ⟨within, ⟨place, before⟩, spans⟩ done rest ⟨hwithin, hplace, hall⟩
  obtain rfl : within = .text := hwithin
  obtain rfl : place = .plain := hplace
  subst hall
  have htext : (tick ++ escape s ++ tick).toList ++ rest =
      Char.ofNat 96 :: (escapeChars s.toList ++ Char.ofNat 96 :: rest) := by
    simp [escape, String.toList_append, tick]
  rw [htext, signs_cons_of_ne (by decide), signs_escapeChars, signs_cons_of_ne (by decide), Scan.run_cons rfl]
  cases s.toList with
  | nil =>
      -- two backticks, which a third would make a fence
      refine ⟨⟨.text, ⟨.opening 0, before⟩, spans⟩, ⟨rfl, ⟨rfl, rfl, by simp [Scan.settled, Scan.all]⟩⟩, ?_⟩
      rw [List.map_nil, List.nil_append, Scan.run_cons rfl]
  | cons c cs =>
      let opened : Scan := { within := .code [c], spans := Scan.all ⟨.text, ⟨.plain, before⟩, spans⟩ }
      have hopen : Scan.step ⟨.text, ⟨.opening 1, before⟩, spans⟩ (c, decide (c ∈ reserved)) = some opened := by
        have hreserved : Char.ofNat 96 ∈ reserved := by decide
        by_cases hc : c = Char.ofNat 96
        · simp [Scan.step, Reader.step, Scan.settled, Scan.start?, Scan.all, opened, hc, hreserved]
        · simp [Scan.step, Reader.step, Scan.settled, Scan.start?, Scan.all, opened, hc]
      refine ⟨{ spans := Scan.all ⟨.text, ⟨.plain, before⟩, spans⟩ ++ [.code (c :: cs)] },
        Scan.InText.mayStop ⟨rfl, rfl, ?_⟩, ?_⟩
      · simp [Scan.all]
      · rw [List.map_cons, List.cons_append, Scan.run_cons hopen, Scan.run_append (Scan.run_code [c] cs _),
          Scan.run_cons rfl]
        rfl

/-- A text without markup: every character that is reserved stands behind a backslash. -/
def IsPlain (s : String) : Prop := ∀ sign ∈ signs s.toList, sign.2 = true ∨ sign.1 ∉ reserved

instance (s : String) : Decidable (IsPlain s) := List.decidableBAll _ _

/-- The characters that a text without markup shows. -/
def unescaped (s : String) : List Span := (signs s.toList).map fun sign => .piece (.char sign.1)

theorem shows_plain {s : String} (h : IsPlain s) : Shows s.toList ((signs s.toList).map fun sign => .char sign.1) := by
  have hrun : ∀ (l : List (Char × Bool)) (before : List Piece), (∀ sign ∈ l, sign.2 = true ∨ sign.1 ∉ reserved) →
      (⟨.plain, before⟩ : Reader).run l = some ⟨.plain, before ++ l.map fun sign => .char sign.1⟩ := by
    intro l
    induction l with
    | nil => intro before _; simp [Reader.run]
    | cons sign rest ih =>
        intro before h
        obtain ⟨hsign, hrest⟩ := List.forall_mem_cons.mp h
        have hstep : (⟨.plain, before⟩ : Reader).step sign = some ⟨.plain, before ++ [.char sign.1]⟩ := by
          rcases hsign with hliteral | hfree <;> simp [Reader.step, *]
        rw [Reader.run_cons hstep, ih _ hrest, List.map_cons, List.append_assoc, List.singleton_append]
  intro before rest
  have hsigns := hrun (signs s.toList) before h
  rw [signs_append_of_run hsigns rfl, Reader.run_append hsigns]

theorem reads_plain {s : String} (h : IsPlain s) : Reads s.toList (unescaped s) := by
  have hreads := (shows_plain h).reads
  rwa [List.map_map] at hreads

theorem reads_flatMap {α : Type} {text : α → List Char} {shown : α → List Span} {parts : List α}
    (h : ∀ part ∈ parts, Reads (text part) (shown part)) : Reads (parts.flatMap text) (parts.flatMap shown) := by
  induction parts with
  | nil => exact reads_nil
  | cons part rest ih =>
      obtain ⟨hpart, hrest⟩ := List.forall_mem_cons.mp h
      rw [List.flatMap_cons, List.flatMap_cons]
      exact hpart.append (ih hrest)

/-- A line break is read wherever a reader may stop. -/
theorem Scan.step_newline {s : Scan} {done : List Span} (h : s.MayStop done) :
    ∃ s' : Scan, s'.InText (done ++ [.piece (.char '\n')]) ∧ s.step ('\n', false) = some s' := by
  obtain ⟨within, ⟨place, before⟩, spans⟩ := s
  obtain ⟨hwithin, hin⟩ := h
  obtain rfl : within = .text := hwithin
  have hnewline : '\n' ∉ reserved := by decide
  by_cases hplace : place = .opening 0
  · subst hplace
    refine ⟨⟨.text, ⟨.plain, [.char '\n']⟩, spans ++ before.map .piece ++ [.code []]⟩, ⟨rfl, rfl, ?_⟩, ?_⟩
    · rw [← hin.all]
      simp [Scan.all, Scan.settled]
    · simp [Scan.step, Reader.step, Scan.settled, Scan.all, hnewline]
  · rw [Scan.settled, if_neg hplace] at hin
    obtain rfl : place = .plain := hin.place
    refine ⟨⟨.text, ⟨.plain, before ++ [.char '\n']⟩, spans⟩, ⟨rfl, rfl, ?_⟩, ?_⟩
    · rw [← hin.all]
      simp [Scan.all]
    · simp [Scan.step, Reader.step, hnewline]

/-- Lines that each end where a reader may stop read one after the other. -/
theorem run_lines {lines : List (List Char × List Span)} (h : ∀ line ∈ lines, Ends line.1 line.2) {s : Scan}
    {done : List Span} (hs : s.MayStop done) :
    ∃ s' : Scan, s'.MayStop (done ++ lines.flatMap fun line => .piece (.char '\n') :: line.2) ∧
      s.run (signs (lines.flatMap fun line => '\n' :: line.1)) = some s' := by
  induction lines generalizing s done with
  | nil => exact ⟨s, by simpa using hs, rfl⟩
  | cons line rest ih =>
      obtain ⟨hline, hrest⟩ := List.forall_mem_cons.mp h
      obtain ⟨begun, hbegun, hstep⟩ := Scan.step_newline hs
      obtain ⟨ended, hended, hrun⟩ := hline begun _ (rest.flatMap fun line => '\n' :: line.1) hbegun
      obtain ⟨s', hs', hrun'⟩ := ih hrest hended
      refine ⟨s', by simpa using hs', ?_⟩
      rw [List.flatMap_cons, List.cons_append, signs_cons_of_ne (by decide), Scan.run_cons hstep, hrun, hrun']

end Parts

/-- Parts that follow a first one, each behind a separator. -/
theorem toList_intercalate_cons (separator first : String) (rest : List String) :
    (separator.intercalate (first :: rest)).toList =
      first.toList ++ rest.flatMap fun part => separator.toList ++ part.toList := by
  induction rest generalizing first with
  | nil => simp
  | cons second rest ih =>
      rw [String.intercalate_cons_cons, String.toList_append, String.toList_append, ih, List.flatMap_cons]
      simp only [List.append_assoc]

/-- A text as the characters it shows in a notification. -/
def plainly (s : String) : List Span := (literally s).map .piece

theorem reads_words {s : String} (h : s.toList.all (· ∉ reserved)) : Reads s.toList (plainly s) := by
  have hfree : escapeChars s.toList = s.toList :=
    escapeChars_eq_self fun c hc => of_decide_eq_true (List.all_eq_true.mp h c hc)
  have hreads := reads_escape s
  rwa [escape, String.toList_ofList, hfree] at hreads

def linked (label url : String) : Span := .piece (.link label.toList url.toList)

theorem reads_link (label : String) {url : String} (h : IsLinkable url) :
    Reads (link label url).toList [linked label url] := (shows_link label h).reads

/-- What a line of links shows. -/
def linkedLine : List Button → List Span
  | [] => []
  | b :: rest => linked b.text b.url :: rest.flatMap fun b => plainly " | " ++ [linked b.text b.url]

theorem reads_links {links : List Button} (h : ∀ b ∈ links, IsLinkable b.url) :
    Reads (" \\| ".intercalate (links.map fun b => link b.text b.url)).toList (linkedLine links) := by
  have hseparator : Reads " \\| ".toList (plainly " | ") := reads_escape " | "
  cases links with
  | nil => exact reads_nil
  | cons b rest =>
      obtain ⟨hb, hlinks⟩ := List.forall_mem_cons.mp h
      rw [List.map_cons, toList_intercalate_cons, List.flatMap_map]
      refine (reads_link b.text hb).append (reads_flatMap fun b hb => ?_)
      exact hseparator.append (reads_link b.text (hlinks b hb))

end Markdown

open Markdown

namespace Component

/-- A component that has nothing to show of a trade. -/
def IsBlank (t : Trade) : Component → Prop
  | .emoji sign _ _ => sign = ""
  | .price => t.isPrelaunch ∨ t.price = none
  | .marketCap => needsSupply t = false
  | .whaleAlert threshold => t.usd = .ok none ∨ ∃ value, t.usd = .ok (some value) ∧ value.lt threshold = .ok true
  | .tradeAmount | .trader | .contractAddress | .txLink => False

/-- The words of a component that has nothing else to show. -/
def Says (t : Trade) : Component → String → Prop
  | .tradeAmount, words => ∃ m amount, t.metadata = some m ∧
    Amount.tokenText t.amount.natAbs m.decimals m.symbol = .ok amount ∧
    (words = t.verb ++ ": " ++ amount ∨ ∃ value usd, t.usd = .ok (some value) ∧ Amount.usdOfDecimal value = .ok usd ∧
      words = t.verb ++ ": " ++ amount ++ " (" ++ usd ++ ")")
  | .price, words => ∃ perToken usd, t.price = some perToken ∧ Amount.usdOfDecimal perToken = .ok usd ∧
    words = "Price: " ++ usd
  | .marketCap, words => ∃ value usd, Amount.usdOfDecimal value = .ok usd ∧ words = "Market Cap: " ++ usd
  | .whaleAlert _, words => ∃ value usd, t.usd = .ok (some value) ∧ Amount.usdOfDecimal value = .ok usd ∧
    words = whale ++ " Whale alert! " ++ usd
  | _, _ => False

/-- What a component shows of a trade. -/
def Displays (t : Trade) : Component → List Span → Prop
  | .emoji sign _ _, spans =>
    (∃ n, 1 ≤ n ∧ spans = (List.replicate n sign).flatMap unescaped) ∨ spans = plainly errorMark
  | .trader, spans =>
    spans = plainly "Trader: " ++ [linked (shorten t.trader shownChars) (accountUrl t.trader)]
  | .contractAddress, spans =>
    match t.token with
    | .fungible account => spans = plainly "CA: " ++ [.code account.toList]
    | .prelaunch auction =>
      spans = [linked ("Pre-launch auction #" ++ Text.intText auction)
        ("https://meme.cooking/meme/" ++ Text.intText auction)]
  | .txLink, spans => spans = [linked "Tx" (transactionUrl t.transaction)]
  | c, spans => ∃ words, (c.Says t words ∨ words = errorMark) ∧ spans = plainly words

/-- What components show of a trade, line by line; those without anything to show are left out. -/
inductive Displayed (t : Trade) : List Component → List (List Span) → Prop where
  | none : Displayed t [] []
  | shown {c : Component} {cs : List Component} {spans : List Span} {lines : List (List Span)}
      (display : c.Displays t spans) (rest : Displayed t cs lines) : Displayed t (c :: cs) (spans :: lines)
  | leftOut {c : Component} {cs : List Component} {lines : List (List Span)} (blank : c.IsBlank t)
      (rest : Displayed t cs lines) : Displayed t (c :: cs) lines

section Texts

variable {t : Trade} {text : String}

theorem amountLine_says (h : amountLine t = .ok text) : ∃ words, Says t .tradeAmount words ∧ text = escape words := by
  rw [amountLine] at h
  split at h
  · cases h
  next m hm =>
    obtain ⟨amount, hamount, h⟩ := except_bind_eq_ok.mp h
    obtain ⟨usd?, husd, h⟩ := except_bind_eq_ok.mp h
    split at h
    · exact ⟨_, ⟨m, amount, hm, hamount, Or.inl rfl⟩, (Except.ok.inj h).symm⟩
    next value =>
      obtain ⟨nonpositive, -, h⟩ := except_bind_eq_ok.mp h
      split at h
      · exact ⟨_, ⟨m, amount, hm, hamount, Or.inl rfl⟩, (Except.ok.inj h).symm⟩
      · obtain ⟨usd, hworth, h⟩ := except_bind_eq_ok.mp h
        refine ⟨_, ⟨m, amount, hm, hamount, Or.inr ⟨value, usd, husd, hworth, rfl⟩⟩, (Except.ok.inj h).symm.trans ?_⟩
        simp only [String.append_assoc]

theorem priceLine_says (h : priceLine t = .ok text) :
    text = "" ∧ IsBlank t .price ∨ ∃ words, Says t .price words ∧ text = escape words := by
  rw [priceLine] at h
  split at h
  next perToken hlaunched hprice =>
    obtain ⟨usd, husd, h⟩ := except_bind_eq_ok.mp h
    exact Or.inr ⟨_, ⟨perToken, usd, hprice, husd, rfl⟩, (Except.ok.inj h).symm⟩
  next hother =>
    refine Or.inl ⟨(Except.ok.inj h).symm, ?_⟩
    cases hprice : t.price with
    | none => exact Or.inr hprice
    | some perToken =>
        cases hlaunch : t.isPrelaunch with
        | true => exact Or.inl hlaunch
        | false => exact absurd hprice (hother perToken hlaunch)

theorem marketCapLine_says {supply : Int} (hneeds : needsSupply t) (h : marketCapLine t supply = .ok text) :
    ∃ words, Says t .marketCap words ∧ text = escape words := by
  rw [marketCapLine] at h
  split at h
  · obtain ⟨value, -, h⟩ := except_bind_eq_ok.mp h
    obtain ⟨usd, husd, h⟩ := except_bind_eq_ok.mp h
    exact ⟨_, ⟨value, usd, husd, rfl⟩, (Except.ok.inj h).symm⟩
  next hother =>
    simp only [needsSupply, Bool.and_eq_true, Option.isSome_iff_exists] at hneeds
    obtain ⟨⟨-, perToken, hprice⟩, m, hm⟩ := hneeds
    exact absurd hm (hother perToken m hprice)

theorem whaleLine_says {threshold : Decimal} (h : whaleLine t threshold = .ok text) :
    text = "" ∧ IsBlank t (.whaleAlert threshold) ∨ ∃ words, Says t (.whaleAlert threshold) words ∧
      text = escape words := by
  rw [whaleLine] at h
  obtain ⟨usd?, husd, h⟩ := except_bind_eq_ok.mp h
  split at h
  · exact Or.inl ⟨(Except.ok.inj h).symm, Or.inl husd⟩
  next value =>
    obtain ⟨below, hbelow, h⟩ := except_bind_eq_ok.mp h
    split at h
    next hless =>
      subst hless
      exact Or.inl ⟨(Except.ok.inj h).symm, Or.inr ⟨value, husd, except_mapError_eq_ok.mp hbelow⟩⟩
    · obtain ⟨usd, hworth, h⟩ := except_bind_eq_ok.mp h
      exact Or.inr ⟨_, ⟨value, usd, husd, hworth, rfl⟩, (Except.ok.inj h).symm⟩

theorem Says.ne_empty {c : Component} {words : String} (h : c.Says t words) : words ≠ "" := by
  cases c with
  | tradeAmount =>
      obtain ⟨m, amount, -, -, rfl | ⟨value, usd, -, -, rfl⟩⟩ := h <;> simp
  | price | marketCap | whaleAlert => obtain ⟨value, usd, h⟩ := h; simp [h]
  | emoji | trader | contractAddress | txLink => cases h

theorem repeated_ok {sign : String} {n : Nat} (h : repeated sign n = .ok text) :
    text = String.join (List.replicate n sign) := by
  rw [repeated] at h
  split at h
  · cases h
  · split at h
    next hempty =>
      obtain rfl := Except.ok.inj h
      rw [hempty]
      exact String.toList_inj.mp (by simp [String.toList_join])
    next => exact (Except.ok.inj h).symm

/-- The row is the sign over and over. -/
theorem emojiRow_ok {sign : String} {unit : Decimal} {maxEmojis : Int} (h : emojiRow t sign unit maxEmojis = .ok text) :
    ∃ n, 1 ≤ n ∧ text = String.join (List.replicate n sign) := by
  have hone : sign = String.join (List.replicate 1 sign) := by simp
  rw [emojiRow] at h
  obtain ⟨value, -, h⟩ := except_bind_eq_ok.mp h
  split at h
  · exact ⟨1, le_rfl, (Except.ok.inj h).symm.trans hone⟩
  · obtain ⟨nonpositive, -, h⟩ := except_bind_eq_ok.mp h
    split at h
    · exact ⟨1, le_rfl, (Except.ok.inj h).symm.trans hone⟩
    · obtain ⟨times, -, h⟩ := except_bind_eq_ok.mp h
      exact ⟨_, by omega, repeated_ok h⟩

theorem free_of_mem_intText {auction : Int} (hauction : 0 ≤ auction) :
    ∀ c ∈ (Text.intText auction).toList, c ∉ reserved := by
  have hreserved : (reserved.all fun c => !c.isDigit) = true := by decide
  have hsign : ¬auction < 0 := by omega
  intro c hc hmem
  rw [Text.toList_intText, if_neg hsign, List.nil_append] at hc
  have hdigit := Text.isDigit_of_mem_toDigits hc
  have hother := List.all_eq_true.mp hreserved c hmem
  rw [hdigit] at hother
  cases hother

theorem contractLine_fungible {account : String} (ht : t.token = .fungible account) :
    contractLine t = "CA: " ++ (tick ++ escape account ++ tick) := by
  rw [contractLine, ht]
  apply String.toList_inj.mp
  simp [tick, String.toList_append]

/-- An auction is linked under its number, which has no sign. -/
theorem contractLine_prelaunch {auction : Int} (ht : t.token = .prelaunch auction) (hauction : 0 ≤ auction) :
    contractLine t = link ("Pre-launch auction #" ++ Text.intText auction)
      ("https://meme.cooking/meme/" ++ Text.intText auction) := by
  have hnumber := escapeChars_eq_self (free_of_mem_intText hauction)
  have hlabel : escape ("Pre-launch auction #" ++ Text.intText auction) =
      "Pre\\-launch auction \\#" ++ Text.intText auction := by
    apply String.toList_inj.mp
    rw [escape, String.toList_ofList, String.toList_append, escapeChars, List.flatMap_append, ← escapeChars,
      ← escapeChars, hnumber, String.toList_append]
    rfl
  rw [contractLine, ht, link, hlabel]
  apply String.toList_inj.mp
  simp [String.toList_append]

theorem isLinkable_auction {auction : Int} (hauction : 0 ≤ auction) :
    IsLinkable ("https://meme.cooking/meme/" ++ Text.intText auction) := by
  refine (by decide : IsLinkable "https://meme.cooking/meme/").append ⟨fun h => ?_, fun h => ?_⟩
  · exact free_of_mem_intText hauction _ h (by decide)
  · exact free_of_mem_intText hauction _ h (by decide)

end Texts

/-- Where markup could break: in a sign that is not plain text, and in the number of an auction that has a sign. -/
def IsSafe (t : Trade) : Component → Prop
  | .emoji sign _ _ => IsPlain sign
  | .contractAddress => ∀ auction, t.token = .prelaunch auction → 0 ≤ auction
  | _ => True

/-- A rendered component reads as what it is to display, or is left out. -/
def Reads (t : Trade) (c : Component) (text : String) : Prop :=
  text = "" ∧ c.IsBlank t ∨ text ≠ "" ∧ ∃ spans, c.Displays t spans ∧ Ends text.toList spans

theorem Reads.of_escaped {t : Trade} {c : Component} {words : String} (hwords : c.Displays t (plainly words))
    (hsome : words ≠ "") : c.Reads t (escape words) :=
  Or.inr ⟨escape_ne_empty hsome, _, hwords, (reads_escape words).ends⟩

theorem reads_errorMark {t : Trade} {c : Component} (h : c.Displays t (plainly errorMark)) : c.Reads t errorMark :=
  Or.inr ⟨by decide, _, h, (reads_words (by decide)).ends⟩

theorem reads_of_result {t : Trade} {c : Component} {result : Except Fault String}
    (hfailed : c.Displays t (plainly errorMark)) (h : ∀ text, result = .ok text → c.Reads t text) :
    c.Reads t (result.toOption.getD errorMark) := by
  cases result with
  | ok text => exact h text rfl
  | error cause => exact reads_errorMark hfailed

section Lines

variable {t : Trade} {text : String}

theorem emojiRow_reads {sign : String} {unit : Decimal} {maxEmojis : Int} (hplain : IsPlain sign)
    (h : emojiRow t sign unit maxEmojis = .ok text) : Reads t (.emoji sign unit maxEmojis) text := by
  obtain ⟨n, hn, rfl⟩ := emojiRow_ok h
  by_cases hsign : sign = ""
  · refine Or.inl ⟨String.toList_inj.mp ?_, hsign⟩
    simp [hsign, String.toList_join]
  · refine Or.inr ⟨fun hempty => ?_, _, Or.inl ⟨n, hn, rfl⟩, ?_⟩
    · obtain ⟨k, rfl⟩ := Nat.exists_eq_add_of_le' hn
      have hchars := congrArg String.toList hempty
      rw [String.toList_join, List.replicate_succ, List.flatMap_cons, String.toList_empty,
        List.append_eq_nil_iff] at hchars
      exact hsign (String.toList_inj.mp hchars.1)
    · rw [String.toList_join]
      exact (reads_flatMap fun s hs => reads_plain (List.eq_of_mem_replicate hs ▸ hplain)).ends

theorem traderLine_reads (htrader : IsLinkable t.trader) : Reads t .trader ("Trader: " ++ accountLink t.trader) := by
  have hlabel : Markdown.Reads "Trader: ".toList (plainly "Trader: ") := reads_words (by decide)
  refine Or.inr ⟨by simp, _, rfl, ?_⟩
  rw [String.toList_append]
  exact (hlabel.append (reads_link _ (isLinkable_accountUrl htrader))).ends

theorem contractLine_reads (hsafe : IsSafe t .contractAddress) : Reads t .contractAddress (contractLine t) := by
  cases ht : t.token with
  | fungible account =>
      have hlabel : Markdown.Reads "CA: ".toList (plainly "CA: ") := reads_words (by decide)
      have hends := hlabel.appendEnds (ends_code account)
      rw [← String.toList_append] at hends
      rw [contractLine_fungible ht]
      exact Or.inr ⟨by simp, _, by simp only [Displays, ht], hends⟩
  | prelaunch auction =>
      have hauction := hsafe auction ht
      rw [contractLine_prelaunch ht hauction]
      have hreads := reads_link ("Pre-launch auction #" ++ Text.intText auction) (isLinkable_auction hauction)
      exact Or.inr ⟨by simp [link], _, by simp only [Displays, ht], hreads.ends⟩

theorem transactionLink_reads (htransaction : IsLinkable t.transaction) :
    Reads t .txLink (transactionLink t.transaction "Tx") :=
  Or.inr ⟨by simp [transactionLink, link], _, rfl, (reads_link "Tx" (isLinkable_transactionUrl htransaction)).ends⟩

end Lines

theorem plainText_reads {t : Trade} {c : Component} (hsupply : c ≠ .marketCap) (htrader : IsLinkable t.trader)
    (htransaction : IsLinkable t.transaction) (hsafe : c.IsSafe t) :
    c.Reads t ((plainText t c).toOption.getD errorMark) := by
  cases c with
  | emoji sign unit maxEmojis => exact reads_of_result (Or.inr rfl) fun text h => emojiRow_reads hsafe h
  | tradeAmount =>
      refine reads_of_result ⟨_, Or.inr rfl, rfl⟩ fun text htext => ?_
      obtain ⟨words, hwords, rfl⟩ := amountLine_says htext
      exact Reads.of_escaped ⟨words, Or.inl hwords, rfl⟩ hwords.ne_empty
  | trader => exact traderLine_reads htrader
  | price =>
      refine reads_of_result ⟨_, Or.inr rfl, rfl⟩ fun text htext => ?_
      obtain hblank | ⟨words, hwords, rfl⟩ := priceLine_says htext
      · exact Or.inl hblank
      · exact Reads.of_escaped ⟨words, Or.inl hwords, rfl⟩ hwords.ne_empty
  | marketCap => exact absurd rfl hsupply
  | contractAddress => exact contractLine_reads hsafe
  | whaleAlert threshold =>
      refine reads_of_result ⟨_, Or.inr rfl, rfl⟩ fun text htext => ?_
      obtain hblank | ⟨words, hwords, rfl⟩ := whaleLine_says htext
      · exact Or.inl hblank
      · exact Reads.of_escaped ⟨words, Or.inl hwords, rfl⟩ hwords.ne_empty
  | txLink => exact transactionLink_reads htransaction

section Rendering

variable (o : Oracle) (prices : PriceList) {t : Trade}

theorem render_reads {c : Component} (htrader : IsLinkable t.trader) (htransaction : IsLinkable t.transaction)
    (hsafe : c.IsSafe t) (net : Net) : c.Reads t ((render o prices t c).run net).1 := by
  cases c with
  | marketCap =>
      by_cases hneeds : needsSupply t
      · obtain ⟨answer, net', hasked⟩ : ∃ answer net', (o.totalSupply prices t.valueToken).run net = (answer, net') :=
          ⟨_, _, rfl⟩
        rw [render, if_pos hneeds, run_bind_eq hasked]
        cases answer with
        | ok supply =>
            refine reads_of_result ⟨_, Or.inr rfl, rfl⟩ fun text htext => ?_
            obtain ⟨words, hwords, rfl⟩ := marketCapLine_says hneeds htext
            exact Reads.of_escaped ⟨words, Or.inl hwords, rfl⟩ hwords.ne_empty
        | error cause => exact reads_errorMark ⟨_, Or.inr rfl, rfl⟩
      · rw [render, if_neg hneeds]
        exact Or.inl ⟨rfl, eq_false_of_ne_true hneeds⟩
  | _ => exact plainText_reads nofun htrader htransaction hsafe

/-- The first component is made first, and left out if its text is empty. -/
theorem renderAll_cons {c : Component} {rest : List Component} {net net' net'' : Net} {text : String}
    {lines : List String} (hfirst : (render o prices t c).run net = (text, net'))
    (hrest : (renderAll o prices t rest).run net' = (lines, net'')) :
    (renderAll o prices t (c :: rest)).run net = ([text].filter (· ≠ "") ++ lines, net'') := by
  obtain ⟨texts, net₁, htexts⟩ : ∃ texts net₁, (rest.mapM (render o prices t)).run net' = (texts, net₁) := ⟨_, _, rfl⟩
  rw [renderAll, run_bind_eq htexts] at hrest
  obtain ⟨rfl, rfl⟩ := Prod.mk.inj hrest
  rw [renderAll, List.mapM_cons, bind_assoc, run_bind_eq hfirst, bind_assoc, run_bind_eq htexts]
  exact Prod.ext (List.filter_append (p := fun text => decide (text ≠ "")) [text] texts) rfl

/-- Every line of a notification reads as what its component displays. -/
theorem renderAll_reads (htrader : IsLinkable t.trader) (htransaction : IsLinkable t.transaction)
    {components : List Component} (hsafe : ∀ c ∈ components, c.IsSafe t) (net : Net) :
    ∃ lines : List (List Char × List Span),
      ((renderAll o prices t components).run net).1.map String.toList = lines.map (·.1) ∧
        (∀ line ∈ lines, Ends line.1 line.2) ∧ Displayed t components (lines.map (·.2)) := by
  induction components generalizing net with
  | nil => exact ⟨[], rfl, nofun, .none⟩
  | cons c rest ih =>
      obtain ⟨hc, hrest⟩ := List.forall_mem_cons.mp hsafe
      obtain ⟨text, net', hrender⟩ : ∃ text net', (render o prices t c).run net = (text, net') := ⟨_, _, rfl⟩
      have hreads := render_reads o prices htrader htransaction hc net
      rw [hrender] at hreads
      obtain ⟨lines, htexts, hends, hdisplayed⟩ := ih hrest net'
      have hall : ((renderAll o prices t (c :: rest)).run net).1 =
          [text].filter (· ≠ "") ++ ((renderAll o prices t rest).run net').1 :=
        congrArg Prod.fst (renderAll_cons o prices hrender rfl)
      rcases hreads with ⟨rfl, hblank⟩ | ⟨htext, spans, hdisplays, hline⟩
      · exact ⟨lines, by rw [hall]; exact htexts, hends, .leftOut hblank hdisplayed⟩
      · refine ⟨(text.toList, spans) :: lines, ?_, List.forall_mem_cons.mpr ⟨hline, hends⟩, .shown hdisplays hdisplayed⟩
        rw [hall]
        simp [htext, htexts]

end Rendering

end Component

/-- What the links under a notification show, after an empty line. -/
def linkedLines (links : List Button) : List (List Span) :=
  if links.isEmpty then [] else [[], linkedLine links]

/-- What a notification of a trade is to show: its headline, an empty line, and each line that is shown of it. -/
def tradeSpans (headline : String) (lines : List (List Span)) (links : List Button) : List Span :=
  .bold headline.toList :: ([] :: lines ++ linkedLines links).flatMap fun line => .piece (.char '\n') :: line

theorem linkLines_ends {links : List Button} (h : ∀ b ∈ links, IsLinkable b.url) :
    ∃ lines : List (List Char × List Span), (linkLines links).map String.toList = lines.map (·.1) ∧
      (∀ line ∈ lines, Ends line.1 line.2) ∧ lines.map (·.2) = linkedLines links := by
  rw [linkLines, linkedLines]
  cases hempty : links.isEmpty with
  | true => exact ⟨[], rfl, nofun, rfl⟩
  | false =>
      refine ⟨[([], []), (_, linkedLine links)], rfl, ?_, rfl⟩
      rintro line (_ | ⟨_, _ | ⟨_, hnone⟩⟩)
      · exact reads_nil.ends
      · exact (reads_links h).ends
      · cases hnone

/-- A bold headline with lines under it reads as just these. -/
theorem read?_of_lines (headline : String) {texts : List String} {lines : List (List Char × List Span)}
    (htexts : texts.map String.toList = lines.map (·.1)) (hends : ∀ line ∈ lines, Ends line.1 line.2) :
    read? ("\n".intercalate (("*" ++ escape headline ++ "*") :: texts)) =
      some (.bold headline.toList :: lines.flatMap fun line => .piece (.char '\n') :: line.2) := by
  have hlines : (texts.flatMap fun part => "\n".toList ++ part.toList) = lines.flatMap fun line => '\n' :: line.1 := by
    have hjoined := congrArg (List.flatMap ('\n' :: ·)) htexts
    rwa [List.flatMap_map, List.flatMap_map] at hjoined
  have hstart : Scan.InText {} [] := ⟨rfl, rfl, rfl⟩
  obtain ⟨begun, hbegun, hrun⟩ := reads_bold headline {} [] (lines.flatMap fun line => '\n' :: line.1) hstart
  obtain ⟨ended, hended, hrun'⟩ := run_lines hends hbegun.mayStop
  rw [read?, toList_intercalate_cons, hlines, hrun, hrun', Option.bind_eq_bind, Option.bind_some,
    if_pos ⟨hended.within, hended.settled.place⟩, hended.settled.all]
  rfl

/-- Nothing that is followed or traded can forge or break a part of its notification. Whatever the symbol, the amount
and the prices are, the text reads as its bold headline and under it, on lines of their own, what the chosen components
display and each link with the label and the address it was given. Texts that are put into the markup as they are have
to be without markup themselves: the signs of emoji components, and the addresses of the trader, the transaction and
the links. -/
theorem trade_notification_reads (o : Oracle) (prices : PriceList) (chat : Int) {settings : Subscription} {t : Trade}
    (symbol : String) (net : Net) (htrader : IsLinkable t.trader) (htransaction : IsLinkable t.transaction)
    (hlinks : ∀ b ∈ settings.links, IsLinkable b.url) (hsafe : ∀ c ∈ settings.components, c.IsSafe t)
    {note : Notification} (h : ((tradeNotification o prices chat settings t symbol).run net).1 = .ok note) :
    ∃ lines, Component.Displayed t settings.components lines ∧
      read? note.text = some (tradeSpans (t.headline symbol) lines settings.links) := by
  obtain ⟨texts, net', hbody⟩ : ∃ texts net', (Component.renderAll o prices t settings.components).run net =
      (texts, net') := ⟨_, _, rfl⟩
  rw [tradeNotification, run_bind_eq hbody] at h
  obtain ⟨magnitude, -, h⟩ := except_bind_eq_ok.mp h
  obtain ⟨media, -, h⟩ := except_bind_eq_ok.mp h
  obtain rfl := Except.ok.inj h
  obtain ⟨lines, htexts, hends, hdisplayed⟩ :=
    Component.renderAll_reads o prices htrader htransaction hsafe net
  rw [hbody] at htexts
  obtain ⟨under, hunder, hunderEnds, hlinked⟩ := linkLines_ends hlinks
  have hall : ("" :: (texts ++ linkLines settings.links)).map String.toList =
      (([], []) :: (lines ++ under)).map (·.1) := by
    rw [List.map_cons, List.map_cons, List.map_append, List.map_append, htexts, hunder, String.toList_empty]
  have hallEnds : ∀ line ∈ ([], []) :: (lines ++ under), Ends line.1 line.2 :=
    List.forall_mem_cons.mpr ⟨reads_nil.ends, List.forall_mem_append.mpr ⟨hends, hunderEnds⟩⟩
  refine ⟨_, hdisplayed, ?_⟩
  simp only [List.cons_append, List.nil_append]
  rw [read?_of_lines (t.headline symbol) hall hallEnds, tradeSpans, ← hlinked, List.cons_append, ← List.map_append,
    List.flatMap_cons, List.flatMap_cons, List.flatMap_map]

theorem trade_notification_reads_chart :
    let trade : Trade := {
      token := .fungible "shit_coin.near", valueToken := "shit_coin.near", amount := 500, polarity := .buy
      trader := "a-lice.near", transaction := "9x_Tx" }
    let settings : Subscription := {
      components := [.emoji "\\*" (.ofNat 10) 5, .price, .trader, .contractAddress, .txLink]
      links := [⟨"Chart [1]", "https://chart.example/?a=1"⟩, ⟨"Ref.", "https://ref.example"⟩] }
    ∃ note lines, ((tradeNotification {} [] 7 settings trade "SH*T").run {}).1 = .ok note ∧
      Component.Displayed trade settings.components lines ∧
      read? note.text = some (tradeSpans "SH*T Buy!" lines settings.links) := by
  intro trade settings
  obtain ⟨note, hnote⟩ : ∃ note, ((tradeNotification {} [] 7 settings trade "SH*T").run {}).1 = .ok note := ⟨_, rfl⟩
  have hsafe : ∀ c ∈ settings.components, c.IsSafe trade := by
    simp only [settings, List.forall_mem_cons]
    exact ⟨(by decide : IsPlain "\\*"), trivial, trivial, nofun, trivial, nofun⟩
  obtain ⟨lines, hlines, hread⟩ :=
    trade_notification_reads {} [] 7 "SH*T" {} (by decide) (by decide) (by decide) hsafe hnote
  exact ⟨note, lines, hnote, hlines, hread⟩

/-- A bracket in the address of a link, a sign that is markup and the number of an auction that cannot exist each make
a notification that no chat can show. -/
theorem trade_notification_broken :
    let trade (token : Token) : Trade := {
      token, valueToken := "shit.near", amount := 500, polarity := .buy, trader := "alice.near", transaction := "9xTx" }
    let textOf (settings : Subscription) (token : Token) : Option String :=
      (((tradeNotification {} [] 7 settings (trade token) "SHIT").run {}).1.toOption.map (·.text))
    let wiki : Button := ⟨"Wiki", "https://en.wikipedia.org/wiki/NEAR_(blockchain)"⟩
    (textOf { components := [], links := [wiki] } (.fungible "shit.near")).map read? = some none ∧
      (textOf { components := [.emoji "*" (.ofNat 10) 5] } (.fungible "shit.near")).map read? = some none ∧
      (textOf { components := [.contractAddress] } (.prelaunch (-5))).map read? = some none := by
  decide +kernel

end ChainAlerts
