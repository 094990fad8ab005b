-- Computations as lists of actions. A computation of a check notes records, puts a
-- scan in place and hands entries to its sink, one after the other, and it stops at
-- the first entry that the sink refuses. What it counts by an addition comes out as
-- long as the addition is exact for the sums that it comes to.
import ScriptBalance.Check

namespace ScriptBalance

variable {σ ε α β : Type}

/-! ## Actions -/

/-- One thing that a check does. -/
inductive Action where
  | note (record : Log.Record)
  | setScan (scan : Scan)
  | send (entry : Entry)

namespace Action

def perform (sink : Sink σ ε) : Action → CheckM σ ε Unit
  | note r => CheckM.note r
  | setScan s => CheckM.setScan s
  | send e => CheckM.send sink e

/-- The entry that an action hands to the sink. -/
def entry? : Action → Option Entry
  | send e => some e
  | _ => none

/-- The scan that a session holds after an action. -/
def scanAfter (s : Scan) : Action → Scan
  | setScan t => t
  | _ => s

end Action

/-- The entries that actions hand to the sink, in order. -/
def entriesOf (actions : List Action) : List Entry := actions.filterMap Action.entry?

/-- The scan that a session holds after actions. -/
def scanAfterAll (s : Scan) (actions : List Action) : Scan := actions.foldl Action.scanAfter s

/-- Takes actions in order, up to the first entry that the sink refuses. -/
def performAll (sink : Sink σ ε) (actions : List Action) : CheckM σ ε Unit :=
  actions.forM (Action.perform sink)

@[simp] theorem entriesOf_note (r : Log.Record) (rest : List Action) :
    entriesOf (.note r :: rest) = entriesOf rest := rfl

@[simp] theorem entriesOf_setScan (s : Scan) (rest : List Action) :
    entriesOf (.setScan s :: rest) = entriesOf rest := rfl

@[simp] theorem entriesOf_send (e : Entry) (rest : List Action) :
    entriesOf (.send e :: rest) = e :: entriesOf rest := rfl

@[simp] theorem entriesOf_append (a b : List Action) :
    entriesOf (a ++ b) = entriesOf a ++ entriesOf b := by
  simp [entriesOf]

@[simp] theorem scanAfterAll_append (s : Scan) (a b : List Action) :
    scanAfterAll s (a ++ b) = scanAfterAll (scanAfterAll s a) b := by
  simp [scanAfterAll]

theorem performAll_append (sink : Sink σ ε) (a b : List Action) :
    performAll sink (a ++ b) = (do performAll sink a; performAll sink b) := by
  simp [performAll]

/-- What comes after a step is done only if the step does not fail. -/
theorem bind_apply (x : EStateM ε σ α) (next : α → EStateM ε σ β) (s : σ) :
    (x >>= next) s = match x s with
      | .ok a t => next a t
      | .error err t => .error err t := by
  show EStateM.bind x next s = _
  unfold EStateM.bind
  cases x s <;> rfl

/-- Two steps return if both of them do. -/
theorem bind_eq_ok_iff {x : EStateM ε σ α} {next : α → EStateM ε σ β} {s u : σ} {b : β} :
    (x >>= next) s = .ok b u ↔ ∃ a t, x s = .ok a t ∧ next a t = .ok b u := by
  rw [bind_apply]
  cases x s with
  | ok a t =>
    constructor
    · intro h
      exact ⟨a, t, rfl, h⟩
    · rintro ⟨a', t', hx, h⟩
      cases hx
      exact h
  | error err t =>
    constructor
    · intro h
      cases h
    · rintro ⟨a, t', hx, -⟩
      cases hx

theorem send_apply (sink : Sink σ ε) (e : Entry) (x : Session σ) :
    CheckM.send sink e x = match sink e x.sink with
      | .ok _ t => .ok () { x with sink := t }
      | .error err t => .error err { x with sink := t } := by
  obtain ⟨scan, log, state⟩ := x
  rfl

theorem performAll_cons (sink : Sink σ ε) (a : Action) (rest : List Action) :
    performAll sink (a :: rest) = (do a.perform sink; performAll sink rest) := by
  simp [performAll]

/-- After actions that the sink takes, the session holds the scan that they
leave. -/
theorem scan_of_performAll (sink : Sink σ ε) (actions : List Action) (x y : Session σ)
    (h : performAll sink actions x = .ok () y) : y.scan = scanAfterAll x.scan actions := by
  induction actions generalizing x with
  | nil =>
    cases h
    rfl
  | cons a rest ih =>
    rw [performAll_cons, bind_apply] at h
    split at h
    · rename_i z hz
      rw [ih z h]
      cases a with
      | note r => cases hz; rfl
      | setScan s => cases hz; rfl
      | send e =>
        rw [Action.perform, send_apply] at hz
        split at hz
        · cases hz; rfl
        · cases hz
    · cases h

/-! ## Computations that take actions -/

/-- From a session with the scan `s`, a computation takes these actions,
whatever the sink does, and returns `value` if the sink takes every entry. -/
def Performs (sink : Sink σ ε) (act : CheckM σ ε α) (s : Scan) (actions : List Action)
    (value : α) : Prop :=
  ∀ log state, act ⟨s, log, state⟩ =
    (do performAll sink actions; return value : CheckM σ ε α) ⟨s, log, state⟩

/-- From a session with the scan `s`, a computation takes these actions and
counts the entries that it hands to the sink. -/
def Streams (sink : Sink σ ε) (act : CheckM σ ε Nat) (s : Scan) (actions : List Action) : Prop :=
  Performs sink act s actions (entriesOf actions).length

namespace Performs

variable {sink : Sink σ ε} {s : Scan}

theorem pure (value : α) : Performs sink (Pure.pure value) s [] value := fun _ _ => rfl

theorem action (a : Action) : Performs sink (a.perform sink) s [a] () := by
  intro log state
  show _ = (performAll sink [a] >>= Pure.pure : CheckM σ ε Unit) _
  rw [bind_pure]
  simp [performAll]

theorem bind {act : CheckM σ ε α} {next : α → CheckM σ ε β} {a b : List Action} {x : α} {y : β}
    (hact : Performs sink act s a x) (hnext : Performs sink (next x) (scanAfterAll s a) b y) :
    Performs sink (act >>= next) s (a ++ b) y := by
  intro log state
  rw [performAll_append, bind_assoc, bind_apply, bind_apply, hact log state, bind_apply]
  -- the second computation starts with the scan that the first actions leave
  cases h : performAll sink a ⟨s, log, state⟩ with
  | ok u t =>
    have hscan := scan_of_performAll sink a _ t h
    obtain ⟨scan, log', state'⟩ := t
    subst hscan
    exact hnext log' state'
  | error err t => rfl

theorem map {act : CheckM σ ε α} {a : List Action} {x : α} (g : α → β)
    (h : Performs sink act s a x) :
    Performs sink (do return g (← act) : CheckM σ ε β) s a (g x) := by
  have hbind : Performs sink (act >>= fun v => Pure.pure (g v)) s (a ++ []) (g x) :=
    h.bind (Performs.pure (g x))
  rwa [List.append_nil] at hbind

/-- A computation may start with a look at the scan. -/
theorem get {next : Session σ → CheckM σ ε α} {a : List Action} {x : α}
    (h : ∀ log state, Performs sink (next ⟨s, log, state⟩) s a x) :
    Performs sink (MonadState.get >>= next) s a x :=
  fun log state => h log state log state

end Performs

namespace Streams

variable {sink : Sink σ ε} {s : Scan}

theorem note (r : Log.Record) {act : CheckM σ ε Nat} {a : List Action} (h : Streams sink act s a) :
    Streams sink (do CheckM.note r; act) s (.note r :: a) :=
  Performs.bind (a := [_]) (Performs.action (.note r)) h

theorem setScan (t : Scan) {act : CheckM σ ε Nat} {a : List Action} (h : Streams sink act t a) :
    Streams sink (do CheckM.setScan t; act) s (.setScan t :: a) :=
  Performs.bind (a := [_]) (Performs.action (.setScan t)) h

end Streams

/-- The actions of the steps for the elements of a list. Each step starts with
the scan that the step before it leaves. -/
def chain (actions : Scan → β → List Action) (s : Scan) : List β → List Action
  | [] => []
  | b :: rest => actions s b ++ chain actions (scanAfterAll s (actions s b)) rest

theorem chain_append (actions : Scan → β → List Action) (s : Scan) (k l : List β) :
    chain actions s (k ++ l)
      = chain actions s k ++ chain actions (scanAfterAll s (chain actions s k)) l := by
  induction k generalizing s with
  | nil => rfl
  | cons b rest ih => simp [chain, ih]

/-- A list of lists may as well be one list. -/
theorem chain_flatMap {γ : Type} (actions : Scan → β → List Action) (s : Scan) (l : List γ)
    (f : γ → List β) :
    chain (fun s c => chain actions s (f c)) s l = chain actions s (l.flatMap f) := by
  induction l generalizing s with
  | nil => rfl
  | cons c rest ih => rw [List.flatMap_cons, chain_append, chain, ih]

theorem chain_map {γ : Type} (actions : Scan → β → List Action) (s : Scan) (list : List γ)
    (g : γ → β) :
    chain actions s (list.map g) = chain (fun s c => actions s (g c)) s list := by
  induction list generalizing s with
  | nil => rfl
  | cons c rest ih => rw [List.map_cons, chain, ih, chain]

/-! ## Additions -/

/-- An addition returns each sum that is below the limit, and does nothing else. -/
def ExactBelow (limit : Nat) (add : Addition σ ε) : Prop :=
  ∀ a b, a + b < limit → add a b = pure (a + b)

theorem exactBelow_unbounded (limit : Nat) : ExactBelow limit (unbounded : Addition σ ε) :=
  fun _ _ _ => rfl

section

variable {limit : Nat} {add : Addition (Session σ) ε} {sink : Sink σ ε}

theorem performs_add (hadd : ExactBelow limit add) (s : Scan) {n m : Nat} (h : n + m < limit) :
    Performs sink (add n m) s [] (n + m) := by
  rw [hadd n m h]
  exact Performs.pure (n + m)

theorem performs_foldlM {step : β → CheckM σ ε Nat} {actions : Scan → β → List Action}
    {list : List β} (hadd : ExactBelow limit add)
    (hstep : ∀ b ∈ list, ∀ s, (entriesOf (actions s b)).length < limit →
      Streams sink (step b) s (actions s b)) (s : Scan) (n : Nat)
    (hlimit : n + (entriesOf (chain actions s list)).length < limit) :
    Performs sink (list.foldlM (fun n b => do add n (← step b)) n) s (chain actions s list)
      (n + (entriesOf (chain actions s list)).length) := by
  induction list generalizing s n with
  | nil => exact Performs.pure n
  | cons b rest ih =>
    rw [chain, entriesOf_append, List.length_append, ← Nat.add_assoc] at hlimit ⊢
    rw [List.foldlM_cons]
    have hone : Performs sink (do add n (← step b)) s (actions s b)
        (n + (entriesOf (actions s b)).length) := by
      have hfirst := hstep b List.mem_cons_self s (by omega)
      have hfits : n + (entriesOf (actions s b)).length < limit := by omega
      have hboth := hfirst.bind (performs_add hadd _ hfits)
      rw [List.append_nil] at hboth
      exact hboth
    exact hone.bind (ih (fun b hb => hstep b (List.mem_cons_of_mem _ hb)) _ _ hlimit)

theorem streams_totalBy {step : β → CheckM σ ε Nat} {actions : Scan → β → List Action}
    {list : List β} (hadd : ExactBelow limit add)
    (hstep : ∀ b ∈ list, ∀ s, (entriesOf (actions s b)).length < limit →
      Streams sink (step b) s (actions s b)) (s : Scan)
    (hlimit : (entriesOf (chain actions s list)).length < limit) :
    Streams sink (CheckM.totalBy add step list) s (chain actions s list) := by
  have hfold := performs_foldlM hadd hstep s 0 (by omega)
  rw [Nat.zero_add] at hfold
  exact hfold

theorem streams_addBy (hadd : ExactBelow limit add) {first second : CheckM σ ε Nat} {s : Scan}
    {a b : List Action} (hfirst : Streams sink first s a)
    (hsecond : Streams sink second (scanAfterAll s a) b)
    (hlimit : (entriesOf (a ++ b)).length < limit) :
    Streams sink (do add (← first) (← second)) s (a ++ b) := by
  unfold Streams
  rw [entriesOf_append, List.length_append] at hlimit ⊢
  have hlate := hsecond.bind (performs_add hadd _ hlimit)
  rw [List.append_nil] at hlate
  exact Performs.bind hfirst hlate

end

namespace Streams

variable {sink : Sink σ ε}

/-- A count of steps streams what the steps stream. -/
theorem total {step : β → CheckM σ ε Nat} {actions : Scan → β → List Action}
    (h : ∀ s b, Streams sink (step b) s (actions s b)) (s : Scan) (list : List β) :
    Streams sink (CheckM.total step list) s (chain actions s list) :=
  streams_totalBy (exactBelow_unbounded _) (fun b _ s _ => h s b) s (Nat.lt_succ_self _)

theorem add {first second : CheckM σ ε Nat} {s : Scan} {a b : List Action}
    (hfirst : Streams sink first s a) (hsecond : Streams sink second (scanAfterAll s a) b) :
    Streams sink (do return (← first) + (← second)) s (a ++ b) :=
  streams_addBy (exactBelow_unbounded _) hfirst hsecond (Nat.lt_succ_self _)

end Streams

/-! ## The sink of a run -/

/-- What a run returns, with the state of its sink. -/
def onSink : EStateM.Result ε (Session σ) α → EStateM.Result ε σ α
  | .ok value session => .ok value session.sink
  | .error err session => .error err session.sink

/-- Of all actions, only those that hand over an entry touch the sink. -/
theorem onSink_performAll (sink : Sink σ ε) (actions : List Action) (x : Session σ) :
    onSink (performAll sink actions x) = (entriesOf actions).forM sink x.sink := by
  induction actions generalizing x with
  | nil => rfl
  | cons a rest ih =>
    rw [performAll_cons, bind_apply]
    cases a with
    | note r => exact ih _
    | setScan s => exact ih _
    | send e =>
      rw [entriesOf_send, List.forM_eq_forM, List.forM_cons, bind_apply, Action.perform, send_apply]
      cases sink e x.sink with
      | ok u t => exact ih _
      | error err t => rfl

/-- A computation gives the sink what its actions hand over, and returns its
value if the sink takes everything. -/
theorem Performs.onSink_eq {sink : Sink σ ε} {act : CheckM σ ε α} {actions : List Action} {a : α}
    {x : Session σ} (h : Performs sink act x.scan actions a) :
    onSink (act x) = (do (entriesOf actions).forM sink; return a : EStateM ε σ α) x.sink := by
  obtain ⟨scan, log, state⟩ := x
  rw [h log state, bind_apply, bind_apply, ← onSink_performAll sink actions ⟨scan, log, state⟩]
  cases performAll sink actions ⟨scan, log, state⟩ <;> rfl

/-- A computation that returns has left the scan that its actions leave. -/
theorem Performs.scan_eq {sink : Sink σ ε} {act : CheckM σ ε α} {actions : List Action} {a b : α}
    {x y : Session σ} (h : Performs sink act x.scan actions a) (hok : act x = .ok b y) :
    y.scan = scanAfterAll x.scan actions := by
  obtain ⟨scan, log, state⟩ := x
  rw [h log state, bind_apply] at hok
  cases hrun : performAll sink actions ⟨scan, log, state⟩ with
  | ok u z =>
    rw [hrun] at hok
    cases hok
    exact scan_of_performAll sink actions _ y hrun
  | error err z =>
    rw [hrun] at hok
    cases hok

/-- A computation whose entries the sink takes returns its value. -/
theorem Performs.ok_of_forM {sink : Sink σ ε} {act : CheckM σ ε α} {actions : List Action} {a : α}
    {x : Session σ} {after : σ} (h : Performs sink act x.scan actions a)
    (hrun : (entriesOf actions).forM sink x.sink = .ok () after) :
    ∃ last, act x = .ok a last ∧ last.sink = after ∧
      last.scan = scanAfterAll x.scan actions := by
  have hact := h.onSink_eq
  rw [bind_apply, hrun] at hact
  cases hresult : act x with
  | ok b last =>
    have hscan := h.scan_eq hresult
    rw [hresult] at hact
    injection hact with hvalue hsink
    exact ⟨last, by rw [hvalue], hsink, hscan⟩
  | error err last =>
    rw [hresult] at hact
    cases hact

/-- A run over entries fails at the first entry that the sink refuses. -/
theorem forM_error (sink : Sink σ ε) (entries : List Entry) (state after : σ) (err : ε)
    (h : entries.forM sink state = .error err after) :
    ∃ accepted refused rest before, entries = accepted ++ refused :: rest ∧
      accepted.forM sink state = .ok () before ∧ sink refused before = .error err after := by
  induction entries generalizing state with
  | nil => cases h
  | cons e rest ih =>
    rw [List.forM_eq_forM, List.forM_cons, bind_apply] at h
    cases he : sink e state with
    | error err' t =>
      rw [he] at h
      cases h
      exact ⟨[], e, rest, state, rfl, rfl, he⟩
    | ok u t =>
      rw [he] at h
      obtain ⟨accepted, refused, rest', before, rfl, hrun, href⟩ := ih t h
      refine ⟨e :: accepted, refused, rest', before, rfl, ?_, href⟩
      rw [List.forM_eq_forM, List.forM_cons, bind_apply, he]
      exact hrun

end ScriptBalance
