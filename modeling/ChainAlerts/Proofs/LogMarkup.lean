import ChainAlerts.LogFilter
import ChainAlerts.Proofs.JsonText

/-! What a chat shows of a notification of something logged. The markup is read character by character: a backslash
makes the next character literal, brackets make a link, and three backticks open and close a block of code. Whatever was
logged, the text reads as its headline, a link to the account, one block and a link to the transaction, and the block
holds what was logged. -/

namespace ChainAlerts

namespace Markdown

/-- What a chat shows: a character, a link, or a block of code. -/
inductive Piece where
  | char (c : Char)
  | link (label url : List Char)
  | block (content : List Char)
  deriving DecidableEq, Repr

/-- Where a reader of markup is. It counts the backticks that have yet to come to a fence after the next one. -/
inductive Place where
  | plain
  | label (seen : List Char)
  | labelled (label : List Char)
  | url (label seen : List Char)
  | opening (more : Nat)
  | code (seen : List Char)
  | closing (seen : List Char) (more : Nat)
  deriving DecidableEq

/-- A reader of markup: where it is, and what it has come past. -/
structure Reader where
  place : Place := .plain
  pieces : List Piece := []

/-- The characters of a text, each with whether a backslash makes it literal. -/
def signs : List Char → List (Char × Bool)
  | [] => []
  | '\\' :: c :: rest => (c, true) :: signs rest
  | c :: rest => (c, false) :: signs rest

/-- The content of a block without the line breaks that set its fences on lines of their own. -/
def unfenced (cs : List Char) : List Char :=
  let inner := if cs.head? = some '\n' then cs.tail else cs
  if inner.getLast? = some '\n' then inner.dropLast else inner

namespace Reader

/-- Reads one character. In plain text and in a label no reserved character may stand for itself. -/
def step (r : Reader) (sign : Char × Bool) : Option Reader :=
  let (c, literal) := sign
  let special (d : Char) : Bool := !literal && c = d
  let reads : Bool := literal || c ∉ reserved
  let fence : Bool := special (Char.ofNat 96)
  match r.place with
  | .plain =>
    if reads then some { r with pieces := r.pieces ++ [.char c] }
    else if special '[' then some { r with place := .label [] }
    else if fence then some { r with place := .opening 1 }
    else none
  | .label seen =>
    if reads then some { r with place := .label (seen ++ [c]) }
    else if special ']' then some { r with place := .labelled seen }
    else none
  | .labelled label => if special '(' then some { r with place := .url label [] } else none
  | .url label seen =>
    if special ')' then some ⟨.plain, r.pieces ++ [.link label seen]⟩
    else some { r with place := .url label (seen ++ [c]) }
  | .opening 0 => if fence then some { r with place := .code [] } else none
  | .opening (more + 1) => if fence then some { r with place := .opening more } else none
  | .code seen =>
    if fence then some { r with place := .closing seen 1 } else some { r with place := .code (seen ++ [c]) }
  | .closing seen 0 => if fence then some ⟨.plain, r.pieces ++ [.block (unfenced seen)]⟩ else none
  | .closing seen (more + 1) => if fence then some { r with place := .closing seen more } else none

/-- Reads a text on. -/
def run (r : Reader) (cs : List (Char × Bool)) : Option Reader := cs.foldlM step r

end Reader

/-- What a text shows, if it is well-formed markup. -/
def shown? (s : String) : Option (List Piece) := do
  let r ← Reader.run {} (signs s.toList)
  if r.place = .plain then some r.pieces else none

/-- A text as the characters it shows. -/
def literally (s : String) : List Piece := s.toList.map .char

/-! Characters and backslashes. -/

theorem signs_cons_of_ne {c : Char} (h : c ≠ '\\') (rest : List Char) :
    signs (c :: rest) = (c, false) :: signs rest := by
  rw [signs]
  exact fun _ _ hc _ => h hc

/-- A text in which special characters stand behind a backslash, the backslash among them, has its own characters. -/
theorem signs_flatMap (special : Char → Prop) [DecidablePred special] (hspecial : special '\\')
    (cs rest : List Char) :
    signs ((cs.flatMap fun c => if special c then ['\\', c] else [c]) ++ rest) =
      (cs.map fun c => (c, decide (special c))) ++ signs rest := by
  induction cs with
  | nil => rfl
  | cons c cs ih =>
      rw [List.flatMap_cons, List.append_assoc, List.map_cons, List.cons_append, ← ih]
      by_cases hc : special c
      · rw [if_pos hc, decide_eq_true hc]
        rfl
      · have hne : c ≠ '\\' := fun heq => hc (heq ▸ hspecial)
        rw [if_neg hc, decide_eq_false hc, List.singleton_append, signs_cons_of_ne hne]

theorem signs_escapeChars (cs rest : List Char) :
    signs (escapeChars cs ++ rest) = (cs.map fun c => (c, decide (c ∈ reserved))) ++ signs rest :=
  signs_flatMap (· ∈ reserved) (by decide) cs rest

theorem signs_append {cs : List Char} (h : '\\' ∉ cs) (rest : List Char) :
    signs (cs ++ rest) = cs.map (·, false) ++ signs rest := by
  induction cs with
  | nil => rfl
  | cons c cs ih =>
      have hne : c ≠ '\\' := fun heq => h (heq ▸ List.mem_cons_self)
      rw [List.cons_append, signs_cons_of_ne hne, ih fun hmem => h (List.mem_cons_of_mem c hmem)]
      rfl

/-- Steps that each take one character to the end of what was seen take all of them there. -/
theorem foldlM_map {σ : Type} {step : σ → Char × Bool → Option σ} (state : List Char → σ) {sign : Char → Char × Bool}
    {cs : List Char} (hstep : ∀ c ∈ cs, ∀ seen, step (state seen) (sign c) = some (state (seen ++ [c])))
    (seen : List Char) : (cs.map sign).foldlM step (state seen) = some (state (seen ++ cs)) := by
  induction cs generalizing seen with
  | nil => simp
  | cons c cs ih =>
      obtain ⟨hc, hcs⟩ := List.forall_mem_cons.mp hstep
      have hrest := ih hcs (seen ++ [c])
      rw [List.append_assoc, List.singleton_append] at hrest
      rw [List.map_cons, List.foldlM_cons, hc seen]
      exact hrest

/-! Parts of a text, from plain text to plain text. -/

namespace Reader

variable {pieces : List Piece}

theorem run_cons {r r' : Reader} {sign : Char × Bool} (h : r.step sign = some r') (rest : List (Char × Bool)) :
    r.run (sign :: rest) = r'.run rest := by
  rw [run, List.foldlM_cons, h]
  rfl

theorem run_append {r r' : Reader} {cs : List (Char × Bool)} (h : r.run cs = some r') (rest : List (Char × Bool)) :
    r.run (cs ++ rest) = r'.run rest := by
  rw [run] at h ⊢
  rw [List.foldlM_append, h]
  rfl

theorem run_map (reader : List Char → Reader) {sign : Char → Char × Bool} {cs : List Char}
    (hstep : ∀ c ∈ cs, ∀ seen, (reader seen).step (sign c) = some (reader (seen ++ [c]))) (seen : List Char) :
    (reader seen).run (cs.map sign) = some (reader (seen ++ cs)) :=
  foldlM_map reader hstep seen

theorem run_plain (cs : List Char) :
    (⟨.plain, pieces⟩ : Reader).run (cs.map fun c => (c, decide (c ∈ reserved))) =
      some ⟨.plain, pieces ++ cs.map .char⟩ := by
  have hstep : ∀ c ∈ cs, ∀ seen : List Char, (⟨.plain, pieces ++ seen.map .char⟩ : Reader).step
      (c, decide (c ∈ reserved)) = some ⟨.plain, pieces ++ (seen ++ [c]).map .char⟩ := by
    intro c _ seen
    by_cases hc : c ∈ reserved <;> simp [step, hc]
  have hrun := run_map (fun seen => ⟨.plain, pieces ++ seen.map .char⟩) hstep []
  simpa using hrun

theorem run_label (cs : List Char) :
    (⟨.label [], pieces⟩ : Reader).run (cs.map fun c => (c, decide (c ∈ reserved))) = some ⟨.label cs, pieces⟩ := by
  refine run_map (fun seen => ⟨.label seen, pieces⟩) (fun c _ seen => ?_) []
  by_cases hc : c ∈ reserved <;> simp [step, hc]

theorem run_url {label cs : List Char} (h : ')' ∉ cs) :
    (⟨.url label [], pieces⟩ : Reader).run (cs.map (·, false)) = some ⟨.url label cs, pieces⟩ := by
  refine run_map (fun seen => ⟨.url label seen, pieces⟩) (fun c hmem seen => ?_) []
  have hc : c ≠ ')' := fun heq => h (heq ▸ hmem)
  simp [step, hc]

theorem run_code (cs : List Char) :
    (⟨.code [], pieces⟩ : Reader).run (cs.map fun c => (c, decide (c = '\\' ∨ c = Char.ofNat 96))) =
      some ⟨.code cs, pieces⟩ := by
  refine run_map (fun seen => ⟨.code seen, pieces⟩) (fun c _ seen => ?_) []
  by_cases hc : c = Char.ofNat 96 <;> simp [step, hc]

end Reader

/-- A part of a text that shows the same wherever it stands in plain text. -/
def Shows (cs : List Char) (pieces : List Piece) : Prop :=
  ∀ (before : List Piece) (rest : List Char),
    (⟨.plain, before⟩ : Reader).run (signs (cs ++ rest)) = (⟨.plain, before ++ pieces⟩ : Reader).run (signs rest)

theorem Shows.append {cs cs' : List Char} {pieces pieces' : List Piece} (h : Shows cs pieces)
    (h' : Shows cs' pieces') : Shows (cs ++ cs') (pieces ++ pieces') := by
  intro before rest
  rw [List.append_assoc, h, h', List.append_assoc]

theorem shows_escape (s : String) : Shows (escape s).toList (literally s) := by
  intro before rest
  rw [escape, String.toList_ofList, signs_escapeChars, Reader.run_append (Reader.run_plain s.toList)]
  rfl

/-- An address that a link can carry: no bracket closes it early, and no backslash hides a character. -/
def IsLinkable (url : String) : Prop := ')' ∉ url.toList ∧ '\\' ∉ url.toList

instance (url : String) : Decidable (IsLinkable url) := inferInstanceAs (Decidable (_ ∧ _))

theorem IsLinkable.append {url url' : String} (h : IsLinkable url) (h' : IsLinkable url') :
    IsLinkable (url ++ url') := by
  rw [IsLinkable, String.toList_append, List.mem_append, List.mem_append]
  exact ⟨not_or.mpr ⟨h.1, h'.1⟩, not_or.mpr ⟨h.2, h'.2⟩⟩

theorem shows_link (label : String) {url : String} (h : IsLinkable url) :
    Shows (link label url).toList [.link label.toList url.toList] := by
  intro before rest
  have htext : (link label url).toList ++ rest =
      '[' :: (escapeChars label.toList ++ ']' :: '(' :: (url.toList ++ ')' :: rest)) := by
    simp [link, escape, String.toList_append]
  rw [htext, signs_cons_of_ne (by decide), signs_escapeChars, signs_cons_of_ne (by decide),
    signs_cons_of_ne (by decide), signs_append h.2, signs_cons_of_ne (by decide)]
  rw [Reader.run_cons rfl, Reader.run_append (Reader.run_label label.toList), Reader.run_cons rfl, Reader.run_cons rfl,
    Reader.run_append (Reader.run_url h.1), Reader.run_cons rfl]

end Markdown

open Markdown

theorem isLinkable_accountUrl {account : String} (h : IsLinkable account) : IsLinkable (accountUrl account) :=
  (by decide : IsLinkable "https://pikespeak.ai/wallet-explorer/").append h

theorem isLinkable_transactionUrl {transaction : String} (h : IsLinkable transaction) :
    IsLinkable (transactionUrl transaction) :=
  ((by decide : IsLinkable "https://pikespeak.ai/transaction-viewer/").append h).append
    (by decide : IsLinkable "/detailed")

end ChainAlerts
