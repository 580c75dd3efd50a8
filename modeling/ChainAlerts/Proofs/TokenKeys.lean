import ChainAlerts.Token
import ChainAlerts.Proofs.JsonReading

/-! The keys under which records file tokens. The two kinds of token share one space of keys: what starts
with the mark of an auction is a pre-launch token, and anything else is the account of a fungible one. A token
is read back from its key if its account does not reach into the other kind's part, and then no other token
has the same key. -/

namespace ChainAlerts.Token

theorem behind?_append (start s : String) : behind? start (start ++ s) = some s := by
  rw [behind?, String.toList_append, if_pos (List.isPrefixOf_iff_prefix.mpr (List.prefix_append _ _)),
    List.drop_left, String.ofList_toList]

theorem behind?_eq_none {start s : String} (h : start.toList.isPrefixOf s.toList = false) :
    behind? start s = none := by
  rw [behind?, h]
  rfl

theorem isPrefixOf_of_behind? {start s : String} (h : behind? start s = none) :
    start.toList.isPrefixOf s.toList = false := by
  rw [behind?] at h
  split at h
  · cases h
  next hprefix => exact Bool.eq_false_iff.mpr hprefix

/-- A token that is its own key's token, as far as its kind goes: an account that is not empty and is not in
the part of the keys that belongs to auctions. -/
def isProper : Token → Bool
  | .fungible account => account ≠ "" && !auctionMark.toList.isPrefixOf account.toList
  | .prelaunch _ => true

theorem key_prelaunch_ne_empty (auction : Int) : auctionMark ++ Text.intText auction ≠ "" := by
  intro h
  have hlist := congrArg String.toList h
  rw [String.toList_append] at hlist
  obtain ⟨hmark, -⟩ := List.append_eq_nil_iff.mp hlist
  exact absurd hmark (by decide)

/-- A proper token whose key can be written is read back from it. -/
theorem parse_key {t : Token} (hproper : t.isProper) (hwritable : t.isWritable) : parse t.key = .ok t := by
  cases t with
  | fungible account =>
      simp only [isProper, Bool.and_eq_true, decide_eq_true_eq, Bool.not_eq_true'] at hproper
      rw [key, parse, if_neg hproper.1, behind?_eq_none hproper.2]
  | prelaunch auction =>
      rw [key, parse, if_neg (key_prelaunch_ne_empty auction), behind?_append]
      simp only [Json.readInteger, Integer.parse_intText hwritable]
      rfl

theorem isProper_of_parse {key : String} {t : Token} (h : parse key = .ok t) : t.isProper := by
  rw [parse] at h
  split at h
  · cases h
  next hne =>
    split at h
    · obtain ⟨auction, -, rfl⟩ := except_map_eq_ok.mp h
      rfl
    next hbehind =>
      obtain rfl := Except.ok.inj h
      simp [isProper, hne, isPrefixOf_of_behind? hbehind]

theorem isWritable_of_parse {key : String} {t : Token} (h : parse key = .ok t) : t.isWritable := by
  rw [parse] at h
  split at h
  · cases h
  · split at h
    · obtain ⟨auction, hread, rfl⟩ := except_map_eq_ok.mp h
      exact Json.isWritable_of_readInteger hread
    · obtain rfl := Except.ok.inj h
      rfl

/-- A token that was read from some key is also read from its own, which is the normal form of that key. -/
theorem parse_key_of_parse {key : String} {t : Token} (h : parse key = .ok t) : parse t.key = .ok t :=
  parse_key (isProper_of_parse h) (isWritable_of_parse h)

theorem key_injective {t u : Token} (ht : parse t.key = .ok t) (hu : parse u.key = .ok u) (h : t.key = u.key) :
    t = u := by
  rw [h, hu] at ht
  exact (Except.ok.inj ht).symm

end ChainAlerts.Token
