import ChainAlerts.Prices
import ChainAlerts.Proofs.JsonText

/-! The cache of view calls. While a node keeps to its answers, a call that may take a kept result says what a call
without a cache says, whatever fails of the store and whatever has expired. A kept text is the printed result of a call
that succeeded, filed under a key that tells contracts and views apart, and reading the text gives the result back. -/

namespace ChainAlerts.ViewCall

/-- A view that is asked about tokens, without arguments. -/
inductive View where
  | metadata (contract : String)
  | totalSupply (contract : String)

namespace View

def contract : View → String
  | .metadata contract | .totalSupply contract => contract

def method : View → String
  | .metadata _ => "ft_metadata"
  | .totalSupply _ => "ft_total_supply"

end View

/-- A view that is asked for, with the commands of the store that fail meanwhile and the keys that have expired by
then. -/
structure Asking where
  view : View
  failing : List Redis.Command := []
  expired : List String := []

/-- What is outside when a view is asked for. -/
def Asking.begin (a : Asking) (net : Net) : Net :=
  { net with redis := { cells := net.redis.cells.filter fun entry => entry.1 ∉ a.expired, failing := a.failing } }

/-- A way to ask for a view. -/
abbrev Way : Type := View → StateM Net (Except Failure Json)

namespace Client

/-- Asking with the cache, and without it. -/
def view (c : Client) : Way := fun v => c.call v.contract v.method (.obj [])

def viewUncached (c : Client) : Way := fun v => c.fresh v.contract v.method (.obj [])

/-- The key under which the result of a view is kept. -/
def viewKey (c : Client) (v : View) : String := c.key v.contract v.method (.obj [])

end Client

/-- Asks for views one after another. The result has an answer for each of them. -/
def askAll (way : Way) : List Asking → Net → List (Except Failure Json) × Net
  | [], net => ([], net)
  | a :: rest, net =>
    let (answer, net) := (way a.view).run (a.begin net)
    let (answers, net) := askAll way rest net
    (answer :: answers, net)

/-! What a call comes to if the same answer arrives at every attempt. -/

/-- What an answer comes to that is given however often it is asked for. -/
def settled (response : WebResponse) (last : Option String) : (attempts : Nat) → Except Failure Json
  | 0 => .error (.call (.exhausted last))
  | _ + 1 =>
    match response with
    | .failed text | .timedOut text => .error (.call (.exhausted (some text)))
    | .crashed text => .error (.crash text)
    | .text body => (Json.decode body).mapError .fault
    | .value body => .ok body

theorem eq_of_settled {body given : Json} {last : Option String} {attempts : Nat}
    (h : settled (.value given) last attempts = .ok body) : body = given := by
  cases attempts with
  | zero => cases h
  | succ left => exact (Except.ok.inj h).symm

theorem retry_settled {σ : Type} {send : σ → WebResponse × σ} (pause : Num → σ → σ) {response : WebResponse}
    {P : σ → Prop} (hsend : ∀ s, P s → (send s).1 = response ∧ P (send s).2)
    (hpause : ∀ delay s, P s → P (pause delay s)) (attempts : Nat) (delay : Num) (last : Option String) (s : σ)
    (hs : P s) :
    (retry send pause attempts delay last s).1 = settled response last attempts ∧
      P (retry send pause attempts delay last s).2 := by
  induction attempts generalizing delay last s with
  | zero => exact ⟨rfl, hs⟩
  | succ left ih =>
      obtain ⟨hresponse, hkept⟩ := hsend s hs
      rw [retry]
      generalize send s = sent at hresponse hkept
      obtain ⟨given, s'⟩ := sent
      obtain rfl : given = response := hresponse
      -- an attempt that fails on the way is the last one, or is made again with the same outcome
      have hagain : ∀ text, settled given (some text) left = .error (.call (.exhausted (some text))) →
          (if left = 0 then (Except.error (.call (.exhausted (some text))), s')
            else retry send pause left delay.twice (some text) (pause delay s')).1 =
              .error (.call (.exhausted (some text))) ∧
          P (if left = 0 then ((Except.error (.call (.exhausted (some text))) : Except Failure Json), s')
            else retry send pause left delay.twice (some text) (pause delay s')).2 := by
        intro text hsettled
        split
        · exact ⟨rfl, hkept⟩
        · obtain ⟨hrest, hfinal⟩ := ih delay.twice (some text) (pause delay s') (hpause delay s' hkept)
          exact ⟨hrest.trans hsettled, hfinal⟩
      cases given with
      | failed text => exact hagain text (by cases left <;> rfl)
      | timedOut text => exact hagain text (by cases left <;> rfl)
      | crashed text => exact ⟨rfl, hkept⟩
      | text body => exact ⟨rfl, hkept⟩
      | value body => exact ⟨rfl, hkept⟩

variable {c : Client} {views : List (String × WebResponse)} {v : View} {net : Net}

/-- What a view comes to while a node keeps to its answers. -/
def Client.outcome (c : Client) (views : List (String × WebResponse)) (v : View) : Except Failure Json :=
  settled ((Assoc.get? (Web.viewName v.contract v.method) views).getD Web.noSuchView) none c.attempts.toNat >>=
    result v.contract v.method

theorem isDocument_of_result {contract method : String} {body value : Json}
    (h : result contract method body = .ok value) : value.isDocument := by
  obtain ⟨refused, -, h⟩ := except_bind_eq_ok.mp h
  cases refused with
  | true =>
      obtain ⟨error, -, h⟩ := except_bind_eq_ok.mp h
      cases h
  | false =>
      obtain ⟨given, -, h⟩ := except_bind_eq_ok.mp h
      obtain ⟨inner, -, h⟩ := except_bind_eq_ok.mp h
      split at h
      · split at h
        next hread =>
          obtain rfl := Except.ok.inj h
          exact Json.isDocument_of_decodeBytes hread
        · cases h
      · obtain ⟨error, -, h⟩ := except_bind_eq_ok.mp h
        cases h

theorem isDocument_of_outcome {value : Json} (h : c.outcome views v = .ok value) : value.isDocument := by
  obtain ⟨body, -, hresult⟩ := except_bind_eq_ok.mp h
  exact isDocument_of_result hresult

/-- A call without a cache comes to what the node's answer says, and leaves the store as it is. -/
theorem viewUncached_settled (c : Client) (v : View) (hviews : net.web.views = some views) :
    ((c.viewUncached v).run net).1 = c.outcome views v ∧
      ((c.viewUncached v).run net).2.web.views = some views ∧ ((c.viewUncached v).run net).2.redis = net.redis := by
  let request : WebRequest := .view c.url v.contract v.method (encodeArguments (.obj []))
  let response := (Assoc.get? (Web.viewName v.contract v.method) views).getD Web.noSuchView
  have hsend : ∀ s : Net, s.web.views = some views ∧ s.redis = net.redis →
      (s.ask request).1 = response ∧
        (s.ask request).2.web.views = some views ∧ (s.ask request).2.redis = net.redis := by
    rintro s ⟨hviews, hredis⟩
    simp only [Net.ask, Web.answer, request, hviews]
    exact ⟨rfl, trivial, hredis⟩
  obtain ⟨hbody, hkept⟩ := retry_settled (P := fun s : Net => s.web.views = some views ∧ s.redis = net.redis)
    Net.pause hsend (fun _ _ h => h) c.attempts.toNat c.delay none net ⟨hviews, rfl⟩
  refine ⟨?_, hkept⟩
  exact congrArg (· >>= result v.contract v.method) hbody

/-! The keys. -/

theorem toList_viewKey (c : Client) (v : View) :
    (c.viewKey v).toList =
      c.mark.toList ++ (v.contract.toList ++ (':' :: (v.method.toList ++ [':', '\x7b', '\x7d']))) := by
  have harguments : ((Json.obj []).sortKeys.print .dense).toList = ['\x7b', '\x7d'] := rfl
  simp [Client.viewKey, Client.key, String.toList_append, harguments]

/-- Different views are kept under different keys, whatever the names of the contracts are. -/
theorem viewKey_injective (c : Client) {v w : View} (h : c.viewKey v = c.viewKey w) : v = w := by
  have hlists := congrArg String.toList h
  rw [toList_viewKey, toList_viewKey, List.append_cancel_left_eq] at hlists
  have hends := congrArg List.reverse hlists
  cases v with
  | metadata contract =>
      cases w with
      | metadata other =>
          have hcontract : contract.toList = other.toList := List.append_cancel_right hlists
          rw [String.toList_inj.mp hcontract]
      | totalSupply other => simp [View.method, View.contract] at hends
  | totalSupply contract =>
      cases w with
      | metadata other => simp [View.method, View.contract] at hends
      | totalSupply other =>
          have hcontract : contract.toList = other.toList := List.append_cancel_right hlists
          rw [String.toList_inj.mp hcontract]

/-! The store. -/

/-- A kept text is found if it is there and can be read; otherwise none is. -/
theorem run_kept? (c : Client) (key : String) (net : Net) : (c.kept? key).run net =
    (if c.cached ∧ .get ∉ net.redis.failing then (net.redis.cell? key).map (·.value.show) else none, net) := by
  change c.kept? key net = _
  by_cases hcached : c.cached
  · by_cases hfails : Redis.Command.get ∈ net.redis.failing
    · simp [Client.kept?, Net.command, Redis.State.answer, Redis.Request.command, hcached, hfails]
    · simp [Client.kept?, Net.command, Redis.State.answer, Redis.Request.command, Redis.State.perform, hcached, hfails]
  · simp [Client.kept?, hcached]

theorem run_keep (c : Client) (key : String) (value : Json) (net : Net) : (c.keep key value).run net =
    ((), if c.cached ∧ 0 < c.lifetime ∧ .set ∉ net.redis.failing
      then { net with redis := net.redis.put key ⟨.text (value.print .line), some c.lifetime⟩ } else net) := by
  change c.keep key value net = _
  by_cases hkeeps : c.cached ∧ 0 < c.lifetime
  · by_cases hfails : Redis.Command.set ∈ net.redis.failing
    · simp [Client.keep, Net.command, Redis.State.answer, Redis.Request.command, hkeeps, hfails]
    · simp [Client.keep, Net.command, Redis.State.answer, Redis.Request.command, Redis.State.perform, hkeeps, hfails]
  · have hnot : ¬(c.cached ∧ 0 < c.lifetime ∧ .set ∉ net.redis.failing) := fun h => hkeeps ⟨h.1, h.2.1⟩
    simp only [Client.keep, if_neg hkeeps, if_neg hnot]

/-- A call whose kept result is found reads it, and asks for nothing. -/
theorem run_view_of_kept {text : String} (hkept : (c.kept? (c.viewKey v)).run net = (some text, net)) :
    (c.view v).run net = ((Json.decode text).mapError .fault, net) := by
  rw [Client.view, Client.call, StateT.run_bind, ← Client.viewKey, hkept]
  rfl

/-- A call without a kept result asks, and keeps what it is told unless that is a failure. -/
theorem run_view_of_missing (hkept : (c.kept? (c.viewKey v)).run net = (none, net)) :
    (c.view v).run net = (((c.viewUncached v).run net).1,
      match ((c.viewUncached v).run net).1 with
      | .ok value => ((c.keep (c.viewKey v) value).run ((c.viewUncached v).run net).2).2
      | .error _ => ((c.viewUncached v).run net).2) := by
  obtain ⟨answer, net', hasked⟩ : ∃ answer net', (c.viewUncached v).run net = (answer, net') := ⟨_, _, rfl⟩
  have hfresh : (c.fresh v.contract v.method (.obj [])).run net = (answer, net') := hasked
  rw [hasked, Client.view, Client.call, ← Client.viewKey, run_bind_eq hkept, run_bind_eq hfresh]
  cases answer <;> rfl

/-! What is kept. -/

/-- The store holds nothing but results of views that were asked for, each as the text of what its view comes to. -/
structure Kept (c : Client) (views : List (String × WebResponse)) (asked : List View) (net : Net) : Prop where
  answers : net.web.views = some views
  results : ∀ entry ∈ net.redis.cells, c.cached ∧ ∃ v ∈ asked, ∃ value,
    entry.1 = c.viewKey v ∧ c.outcome views v = .ok value ∧ entry.2.value = .text (value.print .line)

namespace Kept

variable {asked : List View}

theorem mono {more : List View} (h : Kept c views asked net) (hsub : asked ⊆ more) : Kept c views more net where
  answers := h.answers
  results entry hmem := by
    obtain ⟨hcached, v, hv, hvalue⟩ := h.results entry hmem
    exact ⟨hcached, v, hsub hv, hvalue⟩

theorem begin (h : Kept c views asked net) (a : Asking) : Kept c views asked (a.begin net) where
  answers := h.answers
  results entry hmem := h.results entry (List.mem_filter.mp hmem).1

/-- What is found under the key of a view is the text of what that view comes to. -/
theorem of_cell? (h : Kept c views asked net) {cell : Redis.Cell} (hcell : net.redis.cell? (c.viewKey v) = some cell) :
    c.cached ∧ ∃ value, c.outcome views v = .ok value ∧ cell.value.show = value.print .line := by
  obtain ⟨hcached, w, -, value, hkey, houtcome, hvalue⟩ := h.results _ (Assoc.mem_of_get? hcell)
  obtain rfl := viewKey_injective c hkey
  have hshow : cell.value.show = value.print .line := by
    rw [hvalue]
    rfl
  exact ⟨hcached, value, houtcome, hshow⟩

theorem keep (h : Kept c views asked net) (hv : v ∈ asked) {value : Json} (houtcome : c.outcome views v = .ok value) :
    Kept c views asked ((c.keep (c.viewKey v) value).run net).2 := by
  rw [run_keep]
  split
  next hkeeps =>
    refine ⟨h.answers, fun entry hmem => ?_⟩
    rcases Assoc.mem_put hmem with rfl | hmem
    · exact ⟨hkeeps.1, v, hv, value, rfl, houtcome, rfl⟩
    · exact h.results entry hmem
  · exact h

section

variable (hexact : ∀ v value, c.outcome views v = .ok value → value.isExact)

include hexact

/-- A kept result that can be read is the answer, and nothing is asked for. -/
theorem run_view_of_cell? (h : Kept c views asked net) (hworks : .get ∉ net.redis.failing)
    {cell : Redis.Cell} (hcell : net.redis.cell? (c.viewKey v) = some cell) :
    (c.view v).run net = (c.outcome views v, net) := by
  obtain ⟨hcached, value, houtcome, hshow⟩ := h.of_cell? hcell
  have hkept : (c.kept? (c.viewKey v)).run net = (some (value.print .line), net) := by
    rw [run_kept?, if_pos ⟨hcached, hworks⟩, hcell, Option.map_some, hshow]
  have hplain := Json.isPlain_of_isDocument (isDocument_of_outcome houtcome) (hexact v value houtcome)
  rw [run_view_of_kept hkept, Json.decode, Json.parse_print Json.Style.readable_line hplain, houtcome]
  rfl

/-- A call comes to what it comes to without the cache. It takes a kept result and leaves everything as it is, or it
asks and keeps what it is told, unless that is a failure. -/
theorem run_view (h : Kept c views asked net) (v : View) :
    ((c.view v).run net = (c.outcome views v, net) ∧ (net.redis.cell? (c.viewKey v)).isSome) ∨
      ∃ net', net'.web.views = some views ∧ net'.redis = net.redis ∧ (c.view v).run net = (c.outcome views v,
        match c.outcome views v with
        | .ok value => ((c.keep (c.viewKey v) value).run net').2
        | .error _ => net') := by
  by_cases hfound : .get ∉ net.redis.failing ∧ ∃ cell, net.redis.cell? (c.viewKey v) = some cell
  · obtain ⟨hworks, cell, hcell⟩ := hfound
    exact Or.inl ⟨h.run_view_of_cell? hexact hworks hcell, by rw [hcell]; rfl⟩
  · have hkept : (c.kept? (c.viewKey v)).run net = (none, net) := by
      rw [run_kept?]
      split
      next hreads =>
        cases hcell : net.redis.cell? (c.viewKey v) with
        | none => rfl
        | some cell => exact absurd ⟨hreads.2, cell, hcell⟩ hfound
      · rfl
    obtain ⟨houtcome, hanswers, hredis⟩ := viewUncached_settled c v h.answers
    exact Or.inr ⟨_, hanswers, hredis, by rw [run_view_of_missing hkept, houtcome]⟩

theorem view (h : Kept c views asked net) (hv : v ∈ asked) :
    ((c.view v).run net).1 = c.outcome views v ∧ Kept c views asked ((c.view v).run net).2 := by
  rcases h.run_view hexact v with ⟨hrun, -⟩ | ⟨net', hanswers, hredis, hrun⟩
  · rw [hrun]
    exact ⟨rfl, h⟩
  · have hasked : Kept c views asked net' := ⟨hanswers, hredis ▸ h.results⟩
    rw [hrun]
    refine ⟨rfl, ?_⟩
    cases hresult : c.outcome views v with
    | ok value => exact hasked.keep hv hresult
    | error failure => exact hasked

/-- The calls of a whole run come to what they come to without the cache, and nothing but their results is kept. -/
theorem askAll {askings : List Asking} (hasked : ∀ a ∈ askings, a.view ∈ asked) {net : Net}
    (h : Kept c views asked net) :
    (askAll c.view askings net).1 = askings.map (c.outcome views ·.view) ∧
      Kept c views asked (askAll c.view askings net).2 := by
  induction askings generalizing net with
  | nil => exact ⟨rfl, h⟩
  | cons a rest ih =>
      obtain ⟨hfirst, hmore⟩ := List.forall_mem_cons.mp hasked
      obtain ⟨hanswer, hkept⟩ := (h.begin a).view hexact hfirst
      obtain ⟨hanswers, hend⟩ := ih hmore hkept
      exact ⟨congrArg₂ List.cons hanswer hanswers, hend⟩

end

end Kept

theorem askAll_viewUncached (c : Client) (askings : List Asking) {net : Net} (hviews : net.web.views = some views) :
    (askAll c.viewUncached askings net).1 = askings.map (c.outcome views ·.view) := by
  induction askings generalizing net with
  | nil => rfl
  | cons a rest ih =>
      have hbegin : (a.begin net).web.views = some views := hviews
      obtain ⟨hanswer, hanswers, -⟩ := viewUncached_settled c a.view hbegin
      exact congrArg₂ List.cons hanswer (ih hanswers)

/-! How long a result is kept. -/

theorem cell?_begin {a : Asking} {key : String} (h : key ∉ a.expired) :
    (a.begin net).redis.cell? key = net.redis.cell? key :=
  Assoc.get?_filter (fun _ => decide_eq_true h) net.redis.cells

theorem isSome_cell?_put (redis : Redis.State) (key other : String) (cell : Redis.Cell) :
    ((redis.put key cell).cell? other).isSome = (decide (other = key) || (redis.cell? other).isSome) :=
  Assoc.contains_put

theorem isSome_cell?_keep {key : String} (c : Client) (value : Json)
    (h : (net.redis.cell? key).isSome ∨ c.viewKey v = key ∧ c.cached ∧ 0 < c.lifetime ∧ .set ∉ net.redis.failing) :
    (((c.keep (c.viewKey v) value).run net).2.redis.cell? key).isSome := by
  rw [run_keep]
  split
  · rw [isSome_cell?_put, Bool.or_eq_true, decide_eq_true_eq]
    exact h.symm.imp (·.1.symm) id
  next hfails => exact h.resolve_right fun hkeeps => hfails hkeeps.2

namespace Kept

variable {asked : List View} {key : String} (hexact : ∀ v value, c.outcome views v = .ok value → value.isExact)

include hexact

/-- A call leaves what is kept where it is. -/
theorem isSome_cell?_view (h : Kept c views asked net) (v : View)
    (hcell : (net.redis.cell? key).isSome) : (((c.view v).run net).2.redis.cell? key).isSome := by
  rcases h.run_view hexact v with ⟨hrun, -⟩ | ⟨net', -, hredis, hrun⟩
  · rw [hrun]
    exact hcell
  · rw [← hredis] at hcell
    rw [hrun]
    cases c.outcome views v with
    | ok value => exact isSome_cell?_keep c value (Or.inl hcell)
    | error failure => exact hcell

/-- A result is kept, if the store takes it. -/
theorem isSome_cell?_of_ok (h : Kept c views asked net) {value : Json}
    (houtcome : c.outcome views v = .ok value) (hkeeps : c.cached ∧ 0 < c.lifetime ∧ .set ∉ net.redis.failing) :
    (((c.view v).run net).2.redis.cell? (c.viewKey v)).isSome := by
  rcases h.run_view hexact v with ⟨hrun, hcell⟩ | ⟨net', -, hredis, hrun⟩
  · rw [hrun]
    exact hcell
  · rw [hrun, houtcome]
    exact isSome_cell?_keep c value (Or.inr ⟨rfl, hredis ▸ hkeeps⟩)

/-- What is kept stays until it expires, whatever is asked for and whatever fails meanwhile. -/
theorem isSome_cell?_askAll {askings : List Asking} (hasked : ∀ a ∈ askings, a.view ∈ asked)
    (hexpired : ∀ a ∈ askings, key ∉ a.expired) {net : Net} (h : Kept c views asked net) (hcell : (net.redis.cell? key).isSome) :
    ((ViewCall.askAll c.view askings net).2.redis.cell? key).isSome := by
  induction askings generalizing net with
  | nil => exact hcell
  | cons a rest ih =>
      obtain ⟨hfirst, hmore⟩ := List.forall_mem_cons.mp hasked
      obtain ⟨hthere, hlater⟩ := List.forall_mem_cons.mp hexpired
      rw [← cell?_begin hthere] at hcell
      exact ih hmore hlater ((h.begin a).view hexact hfirst).2 ((h.begin a).isSome_cell?_view hexact a.view hcell)

end Kept

/-- The cache is transparent. While a node keeps to its answers, and its results have no floating-point numbers, views
that are asked for one after another come to what they come to without a cache, whichever commands of the store fail
and whatever expires meanwhile. The store holds nothing but texts of results, and nothing of a view that fails. What it
holds of a view answers that view without anything being asked for, as soon as the store can be read, until it expires.
It holds the result of a view that is asked for while the store takes it. -/
theorem answers_as_without_cache (c : Client) {start : Net} {views : List (String × WebResponse)}
    (hviews : start.web.views = some views) (hempty : start.redis.cells = [])
    (hexact : ∀ v value, ((c.viewUncached v).run start).1 = .ok value → value.isExact) (askings : List Asking) :
    let reached := (askAll c.view askings start).2
    (askAll c.view askings start).1 = (askAll c.viewUncached askings start).1 ∧
      (∀ entry ∈ reached.redis.cells, ∃ v ∈ askings.map (·.view), ∃ value, entry.1 = c.viewKey v ∧
        ((c.viewUncached v).run start).1 = .ok value ∧ entry.2.value = .text (value.print .line)) ∧
      (∀ v failure, ((c.viewUncached v).run start).1 = .error failure →
        reached.redis.cell? (c.viewKey v) = none) ∧
      (∀ (more : List Asking) (last : Asking), (reached.redis.cell? (c.viewKey last.view)).isSome →
        (∀ a ∈ more ++ [last], c.viewKey last.view ∉ a.expired) → .get ∉ last.failing →
          let later := last.begin (askAll c.view more reached).2
          ((c.view last.view).run later).2 = later) ∧
      (∀ (a : Asking) (value : Json), c.cached → 0 < c.lifetime → .set ∉ a.failing →
        ((c.viewUncached a.view).run start).1 = .ok value →
          (((c.view a.view).run (a.begin reached)).2.redis.cell? (c.viewKey a.view)).isSome) := by
  intro reached
  have hsettled : ∀ v, ((c.viewUncached v).run start).1 = c.outcome views v :=
    fun v => (viewUncached_settled c v hviews).1
  simp only [hsettled] at hexact ⊢
  have hstart : Kept c views (askings.map (·.view)) start := ⟨hviews, by simp [hempty]⟩
  obtain ⟨hanswers, hkept⟩ := Kept.askAll hexact (fun a ha => List.mem_map_of_mem ha) hstart
  refine ⟨hanswers.trans (askAll_viewUncached c askings hviews).symm, fun entry hmem => (hkept.results entry hmem).2,
    fun v failure hfails => ?_, fun more last hcell hexpired hworks => ?_,
    fun a value hcached hlives htakes hvalue => ?_⟩
  · cases hcell : reached.redis.cell? (c.viewKey v) with
    | none => rfl
    | some cell =>
        obtain ⟨-, value, hvalue, -⟩ := hkept.of_cell? hcell
        cases hfails.symm.trans hvalue
  · -- the result is still there when the view is asked for again
    have hmore : Kept c views (askings.map (·.view) ++ more.map (·.view)) reached :=
      hkept.mono (List.subset_append_left _ _)
    have hviewed : ∀ a ∈ more, a.view ∈ askings.map (·.view) ++ more.map (·.view) :=
      fun a ha => List.mem_append_right _ (List.mem_map_of_mem ha)
    obtain ⟨hearlier, hlast⟩ := List.forall_mem_append.mp hexpired
    have hstill := Kept.isSome_cell?_askAll hexact hviewed hearlier hmore hcell
    rw [← cell?_begin (hlast last (List.mem_singleton_self last)), Option.isSome_iff_exists] at hstill
    obtain ⟨cell, hcell⟩ := hstill
    rw [((Kept.askAll hexact hviewed hmore).2.begin last).run_view_of_cell? hexact hworks hcell]
  · exact (hkept.begin a).isSome_cell?_of_ok hexact hvalue ⟨hcached, hlives, htakes⟩

/-- The answer of a node that says what a view returned. -/
def returned (bytes : List Json) : Json := .obj [("result", .obj [("result", .arr bytes)])]

theorem result_returned {contract method : String} {bytes : List Json} {value : Json}
    (h : result contract method (returned bytes) = .ok value) : Json.decodeBytes bytes = .ok value := by
  obtain ⟨refused, hrefused, h⟩ := except_bind_eq_ok.mp h
  obtain rfl : false = refused := Except.ok.inj hrefused
  obtain ⟨given, hgiven, h⟩ := except_bind_eq_ok.mp h
  obtain rfl : Json.obj [("result", .arr bytes)] = given := Except.ok.inj hgiven
  obtain ⟨inner, hinner, h⟩ := except_bind_eq_ok.mp h
  obtain rfl : Json.arr bytes = inner := Except.ok.inj hinner
  simp only at h
  split at h
  next hread =>
    obtain rfl := Except.ok.inj h
    exact hread
  · cases h

/-- The metadata of a token as a contract returns it. -/
def metadataBytes : List Json :=
  "\x7b\"name\": \"caf\\u00e9\", \"decimals\": 18, \"tags\": [null, \"\\n\"]\x7d".toList.map fun c => .int c.toNat

/-- A node that knows the metadata of one token, but not its supply. -/
def oneToken : List (String × WebResponse) := [
  ("a.near:ft_metadata", .value (returned metadataBytes)),
  ("a.near:ft_total_supply", .value (.obj [("error", .str "gone")]))]

theorem isExact_of_oneToken {c : Client} {v : View} {value : Json} (h : c.outcome oneToken v = .ok value) :
    value.isExact := by
  have hmetadata : (Json.decodeBytes metadataBytes).toOption.all Json.isExact := by decide +kernel
  obtain ⟨body, hbody, hresult⟩ := except_bind_eq_ok.mp h
  rw [oneToken, Assoc.get?, Assoc.get?, Assoc.get?] at hbody
  split at hbody
  · obtain rfl := eq_of_settled hbody
    rw [result_returned hresult] at hmetadata
    exact hmetadata
  · split at hbody
    · obtain rfl := eq_of_settled hbody
      cases hresult
    · obtain rfl := eq_of_settled hbody
      cases hresult

theorem answers_as_without_cache_of_one_token :
    let c : Client := { url := "http://rpc", cached := true, lifetime := 60 }
    let start : Net := { web := { views := some oneToken } }
    let key := c.viewKey (.metadata "a.near")
    let askings : List Asking := [
      ⟨.metadata "a.near", [.set], []⟩, ⟨.totalSupply "a.near", [], []⟩, ⟨.metadata "a.near", [], []⟩,
      ⟨.metadata "a.near", [.get], []⟩, ⟨.metadata "a.near", [], []⟩, ⟨.metadata "a.near", [], [key]⟩]
    (askAll c.view askings start).1 = (askAll c.viewUncached askings start).1 ∧
      (askAll c.view askings start).2.web.requests.length = 5 := by
  intro c start key askings
  have hviews : start.web.views = some oneToken := rfl
  have hexact : ∀ v value, ((c.viewUncached v).run start).1 = .ok value → value.isExact := by
    intro v value hvalue
    rw [(viewUncached_settled c v hviews).1] at hvalue
    exact isExact_of_oneToken hvalue
  exact ⟨(answers_as_without_cache c hviews rfl hexact askings).1, by decide +kernel⟩

end ChainAlerts.ViewCall
