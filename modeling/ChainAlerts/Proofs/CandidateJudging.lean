import ChainAlerts.TradeAlerts
import ChainAlerts.Proofs.Followers

/-! How a candidate is judged. A chat's record alone decides whether the chat hears of a change, by a rule that
knows nothing of an index or of what was asked before. Judging a candidate applies that rule, whatever is already
known of the number of decimals, and an alert that comes of it is justified by the row in which the record is
stored. -/

namespace ChainAlerts.Matching

open Subscriptions

/-- The price at which a change is valued, unknown if there is none. -/
def priceOf (m : Matcher) (c : BalanceChange) : Option Decimal :=
  match m.prices.price c.valueToken with
  | .ok price => price
  | .error _ => none

/-- Whether a change is as large as the settings for its token ask. -/
def isLarge (m : Matcher) (answers : String → Option Int) (c : BalanceChange) (settings : Subscription) :
    Bool :=
  match settings.minAmount.passes c.amount (priceOf m c) (answers c.valueToken) with
  | .ok large => large
  | .error _ => false

/-- The alert that a chat's record asks for when a change goes in a direction, if it asks for one. -/
def alertOf (m : Matcher) (answers : String → Option Int) (c : BalanceChange) (p : Polarity) (chat : Int)
    (s : Subscriber) : Option TradeAlert :=
  match Assoc.get? c.token s.tokens with
  | none => none
  | some settings =>
    if s.enabled && settings.wants p && isLarge m answers c settings then
      (shown? m.routes chat c p).map fun trade => { chat, settings, trade }
    else none

/-- The alert that a chat's stored record asks for. A record that cannot be read asks for none. -/
def alertFor (m : Matcher) (answers : String → Option Int) (c : BalanceChange) (p : Polarity) (chat : Int) :
    Option TradeAlert :=
  match record? m chat with
  | .ok (some s) => alertOf m answers c p chat s
  | _ => none

variable {m : Matcher} {answers : String → Option Int} {c : BalanceChange} {p : Polarity} {chat : Int}
  {price : Option Decimal} {net : Net}

/-- The first look at a record lets through what is enabled, follows the token and wants the direction. -/
theorem screen_eq_ok {found : Option Subscriber} {settings : Subscription} :
    screen c p found = .ok settings ↔
      ∃ s, found = some s ∧ s.enabled ∧ Assoc.get? c.token s.tokens = some settings ∧ settings.wants p := by
  cases found with
  | none => simp [screen]
  | some s =>
      cases henabled : s.enabled with
      | false => simp [screen, henabled]
      | true =>
          cases hfollows : Assoc.get? c.token s.tokens with
          | none => simp [screen, henabled, hfollows]
          | some other =>
              cases hwants : other.wants p with
              | false =>
                  simp only [screen, henabled, hfollows, hwants]
                  grind
              | true =>
                  simp only [screen, henabled, hfollows, hwants]
                  grind

/-- Where the database serves, a scan finds in each row what its payload says. -/
theorem alertFor_row (hserves : m.database.Serves m.bot) (hrows : (rows m.bot m.database).Ascending)
    {row : Int × Json} (hrow : row ∈ rows m.bot m.database) (hfits : Database.fits row.1) :
    alertFor m answers c p row.1 =
      match Subscriber.ofJson row.2 with
      | .ok s => alertOf m answers c p row.1 s
      | .error _ => none := by
  have hget : m.database.get Subscriber.codec.collection m.bot row.1 = .ok (some row.2) := by
    rw [Database.get, hserves.begin]
    simp only [List.all_cons, List.all_nil, hfits, Bool.and_true, if_true, except_ok_bind]
    exact congrArg Except.ok (hrows.get?_eq_some_iff.mpr hrow)
  have hrecord : record? m row.1 = some <$> (store m.bot).decode row.1 row.2 := by
    simp only [record?, hget]
    rfl
  rw [alertFor, hrecord]
  cases hread : Subscriber.ofJson row.2 with
  | ok s =>
      rw [decode_eq_ok hread]
      rfl
  | error f =>
      have hdecode : (store m.bot).codec.decode row.2 = .error f := hread
      rw [Store.decode, hdecode]
      rfl

end ChainAlerts.Matching
