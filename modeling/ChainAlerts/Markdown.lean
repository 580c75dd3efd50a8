import ChainAlerts.Text.Digit

/-! The markup that chats render: which characters are reserved in plain text and in code, and the
links a notification carries. -/

namespace ChainAlerts.Markdown

/-- The characters that are literal in plain text only behind a backslash. -/
def reserved : List Char := "_*[]()~`>#+-=|\x7b\x7d.!\\".toList

/-- A text in which every reserved character is literal. -/
def escapeChars (cs : List Char) : List Char :=
  cs.flatMap fun c => if c ∈ reserved then ['\\', c] else [c]

def escape (s : String) : String := String.ofList (escapeChars s.toList)

theorem escape_ne_empty {s : String} (h : s ≠ "") : escape s ≠ "" := by
  intro hempty
  have hchars : escapeChars s.toList = [] := by simpa [escape] using congrArg String.toList hempty
  cases hs : s.toList with
  | nil => exact h (String.toList_inj.mp hs)
  | cons c cs =>
      rw [hs, escapeChars, List.flatMap_cons] at hchars
      have hfirst := (List.append_eq_nil_iff.mp hchars).1
      split at hfirst <;> cases hfirst

/-- A text none of whose characters is reserved stays as it is. -/
theorem escapeChars_eq_self {cs : List Char} (h : ∀ c ∈ cs, c ∉ reserved) : escapeChars cs = cs := by
  induction cs with
  | nil => rfl
  | cons c cs ih =>
      obtain ⟨hc, hcs⟩ := List.forall_mem_cons.mp h
      rw [escapeChars, List.flatMap_cons, if_neg hc, ← escapeChars, ih hcs]
      rfl

/-- A text as the content of a code block, in which only backslash and backtick are special. -/
def escapeCodeChars (cs : List Char) : List Char :=
  cs.flatMap fun c => if c = '\\' ∨ c = Char.ofNat 96 then ['\\', c] else [c]

def escapeCode (s : String) : String := String.ofList (escapeCodeChars s.toList)

/-- The first `n` elements; a negative count leaves out that many at the end. -/
def takeSigned {α : Type} (n : Int) (xs : List α) : List α :=
  if 0 ≤ n then xs.take n.toNat else xs.take (xs.length - n.natAbs)

/-- The last `n` elements. A count of zero gives all of them, and a negative count leaves out that
many at the start. -/
def takeLastSigned {α : Type} (n : Int) (xs : List α) : List α :=
  if 0 < n then xs.drop (xs.length - n.toNat) else xs.drop n.natAbs

/-- Shortens a long account to its first and last characters. -/
def shorten (account : String) (chars : Int) : String :=
  let cs := account.toList
  if cs.length < chars * 2 + 4 then account
  else String.ofList (takeSigned chars cs ++ "...".toList ++ takeLastSigned chars cs)

/-- How many characters of a long account are shown at each end. -/
def shownChars : Int := 6

/-- A link with its label escaped. -/
def link (label url : String) : String := "[" ++ escape label ++ "](" ++ url ++ ")"

/-- The page that shows an account. -/
def accountUrl (account : String) : String := "https://pikespeak.ai/wallet-explorer/" ++ account

/-- The page that shows a transaction. -/
def transactionUrl (transaction : String) : String :=
  "https://pikespeak.ai/transaction-viewer/" ++ transaction ++ "/detailed"

/-- A link to an account, labelled with its shortened name. -/
def accountLink (account : String) : String := link (shorten account shownChars) (accountUrl account)

def transactionLink (transaction : String) (label : String) : String :=
  link label (transactionUrl transaction)

/-- A text as a code block of its own lines. -/
def codeBlock (s : String) : String :=
  let fence := String.ofList (List.replicate 3 (Char.ofNat 96))
  fence ++ "\n" ++ escapeCode s ++ "\n" ++ fence

end ChainAlerts.Markdown
