import Mathlib.Data.Fin.VecNotation
import Mathlib.Data.Fintype.Basic
import Mathlib.Tactic.FinCases
import SpacedReview.Proofs.Review.Interleaving
import SpacedReview.Proofs.Store.Atomicity
import SpacedReview.Proofs.Store.Safety
import SpacedReview.Proofs.Store.Upsert

/-!
# Marks of different cards at the same time

A mark loads a record, reviews it, and saves what comes of it. Nothing keeps other marks from
running between the load and the save. What is loaded and saved in between is about other cards, or
other users' records, if the marks of one user and card keep out of each other's way. So a mark does
not notice whether it is interrupted.

Here a mark runs in two halves, and between any two halves there is a moment: the state of the
store, and how far each mark has come. Two moments look the same to a key, which is a user and a
card, if they have the same record of it, and its marks have come equally far. A half of another key
is not seen by the key, and a half of the key itself is the same in moments that look the same.
Hence a key sees of every run just its own halves (`Moment.LooksLike.run_filter`), and in an
interleaving these come in turn.

## Main statements

* `MarkCall.finish_begin`: the halves of a mark make up the mark.
* `Moment.LooksLike.step`, `Moment.looksLike_step_of_ne`: what a half does to a key.
* `interleavesFreely`: marks may interleave in stores that keep records apart.
* `marks_interleave_freely`: records in memory and in the database are kept in such stores.
-/

namespace SpacedReview

open SpacedReview.Review SpacedReview.Store SpacedReview.Time

namespace Review.RecordStore

variable {σ : Type} (store : RecordStore σ) (state : σ) (owner : Subject)

@[simp] theorem loadFor_some (card : CardId) :
    store.loadFor state (some owner) card = store.load state owner card := rfl

@[simp] theorem saveFor_some (r : Record) :
    store.saveFor state (some owner) r = store.save state owner r := rfl

end Review.RecordStore

namespace Store

variable {σ κ : Type}

/-! ### Halves of marks -/

/-- How far a mark has come. -/
inductive Stage where
  | waiting
  /-- The record was loaded and reviewed, and is not saved yet. -/
  | reviewed (r : Record)
  | ended (answer : Except Failure Record)

namespace MarkCall

variable (call : MarkCall) (store : RecordStore σ)

/-- Whose record of which card a mark is about. -/
def key : Session × CardId := (call.session, call.card)

/-- What a mark comes to in a store, and the state behind it. -/
def attempt (state : σ) : Except Failure Record × σ :=
  call.scheduler.mark store state call.session call.card call.outcome call.now

/-- The first half of a mark loads the record, and reviews it. -/
def begin (state : σ) : Stage :=
  match (store.loadFor state call.session call.card).bind fun loaded ↦
      call.scheduler.review loaded call.card call.outcome call.now with
  | .ok r => .reviewed r
  | .error f => .ended (.error f)

/-- The second half of a mark saves the record, if the first half led to one. -/
def finish (state : σ) : Stage → Stage × σ
  | .reviewed r =>
    let (saved, next) := store.saveFor state call.session r
    (.ended (saved.map fun _ ↦ r), next)
  | stage => (stage, state)

/-- A mark whose halves are not interrupted is a mark. -/
theorem finish_begin (state : σ) : call.finish store state (call.begin store state) =
    (.ended (call.attempt store state).1, (call.attempt store state).2) := by
  unfold begin attempt
  cases hsession : call.session with
  | none => rfl
  | some owner =>
    rw [RecordStore.loadFor_some]
    cases h : (store.load state owner call.card).bind
        (call.scheduler.review · call.card call.outcome call.now) with
    | error f =>
      rw [Scheduler.mark_of_error h]
      rfl
    | ok r =>
      rw [Scheduler.mark_of_ok h]
      simp only [finish, hsession, RecordStore.saveFor_some]

variable {call store} {state : σ} {stage : Stage}

/-- A stage that a mark can be at: what it has reviewed is about its card. -/
def Reaches (call : MarkCall) (stage : Stage) : Prop :=
  ∀ r, stage = .reviewed r → r.card = call.card

/-- The second half leaves the state as it is, or saves what the first half led to, if a save that
fails changes nothing. -/
theorem finish_cases (call : MarkCall) (hleaves : store.SavesOrLeaves state) (stage : Stage) :
    (call.finish store state stage).2 = state ∨
      ∃ owner r, call.session = some owner ∧ stage = .reviewed r ∧
        store.save state owner r = (.ok (), (call.finish store state stage).2) := by
  cases stage with
  | waiting => exact .inl rfl
  | ended answer => exact .inl rfl
  | reviewed r =>
    cases hsession : call.session with
    | none =>
      refine .inl ?_
      simp only [finish, hsession]
      rfl
    | some owner =>
      simp only [finish, hsession, RecordStore.saveFor_some]
      rcases h : store.save state owner r with ⟨_ | _, next⟩
      · exact .inl (hleaves owner r _ next h)
      · exact .inr ⟨owner, r, rfl, rfl, h⟩

theorem reaches_finish (h : call.Reaches stage) :
    call.Reaches (call.finish store state stage).1 := by
  cases stage with
  | waiting => exact h
  | ended answer => exact h
  | reviewed r =>
    intro r' hr'
    cases hr'

end MarkCall

/-- What marks come to that run one after the other, and the state behind them. -/
def serial (store : RecordStore σ) (state : σ) :
    List MarkCall → List (Except Failure Record) × σ
  | [] => ([], state)
  | call :: calls =>
    let last := serial store (call.attempt store state).2 calls
    ((call.attempt store state).1 :: last.1, last.2)

/-! ### Stores that keep records apart -/

/-- What is kept under a key. If nobody is logged in there is nothing. -/
def keptUnder (record? : σ → Subject → CardId → Option κ) (state : σ) (k : Session × CardId) :
    Option κ := k.1.bind fun owner ↦ record? state owner k.2

end Store

/-- A store that keeps records apart, in the states that it can come to: what is loaded depends on
nothing but what is kept of the user and card that are asked for, and what is refused to be saved is
refused in all of these states and changes nothing. -/
structure Review.RecordStore.KeepsApart {σ κ : Type} (store : RecordStore σ) (Valid : σ → Prop)
    (record? : σ → Subject → CardId → Option κ) (kept : Record → κ) : Prop where
  keeps : ∀ {state}, Valid state → store.Keeps state record? kept
  leaves : ∀ {state}, Valid state → store.SavesOrLeaves state
  valid_of_save : ∀ {state owner r next}, Valid state →
    store.save state owner r = (.ok (), next) → Valid next
  load_congr : ∀ {state state' owner card}, Valid state → Valid state' →
    record? state owner card = record? state' owner card →
      store.load state owner card = store.load state' owner card
  refuses_congr : ∀ {state state' owner r}, Valid state → Valid state' →
    (store.save state owner r).1 = (store.save state' owner r).1

namespace Store.MarkCall

variable {σ κ : Type} {store : RecordStore σ} {Valid : σ → Prop}
  {record? : σ → Subject → CardId → Option κ} {kept : Record → κ} {call : MarkCall}
  {state state' : σ} {stage : Stage} (h : store.KeepsApart Valid record? kept)

include h

theorem reaches_begin (hstate : Valid state) : call.Reaches (call.begin store state) := by
  intro r hr
  unfold begin at hr
  split at hr
  · rename_i r' hbegin
    obtain rfl := Stage.reviewed.inj hr
    obtain ⟨loaded, hload, hreview⟩ := bind_eq_ok_iff.1 hbegin
    refine Scheduler.card_of_review (fun old hold ↦ ?_) hreview
    obtain rfl := Option.mem_def.1 hold
    obtain ⟨owner, -, hload⟩ := bind_eq_ok_iff.1 hload
    exact (h.keeps hstate).card_of_load hload
  · cases hr

/-- The first half of a mark only depends on what is kept under its key. -/
theorem begin_congr (hstate : Valid state) (hstate' : Valid state')
    (hkept : keptUnder record? state call.key = keptUnder record? state' call.key) :
    call.begin store state = call.begin store state' := by
  have hload : store.loadFor state call.session call.card =
      store.loadFor state' call.session call.card := by
    unfold key at hkept
    cases hsession : call.session with
    | none => rfl
    | some owner =>
      rw [hsession] at hkept
      exact h.load_congr hstate hstate' hkept
  unfold begin
  rw [hload]

theorem valid_finish (hstate : Valid state) : Valid (call.finish store state stage).2 := by
  rcases call.finish_cases (h.leaves hstate) stage with heq | ⟨owner, r, -, -, hsave⟩
  · rwa [heq]
  · exact h.valid_of_save hstate hsave

/-- The second half of a mark changes nothing that is kept under other keys. -/
theorem keptUnder_finish_of_ne (hstate : Valid state) (hstage : call.Reaches stage)
    {k : Session × CardId} (hk : call.key ≠ k) :
    keptUnder record? (call.finish store state stage).2 k = keptUnder record? state k := by
  rcases call.finish_cases (h.leaves hstate) stage with heq | ⟨owner, r, hsession, hr, hsave⟩
  · rw [heq]
  · obtain ⟨session, card⟩ := k
    cases session with
    | none => rfl
    | some owner' =>
      refine ((h.keeps hstate).of_save hsave).2 owner' card fun heq ↦ hk ?_
      obtain ⟨rfl, rfl⟩ := Prod.mk.inj heq
      rw [key, hsession, hstage r hr]

/-- The second half of a mark leads to the same in all states. -/
theorem finish_congr (hstate : Valid state) (hstate' : Valid state') (hstage : call.Reaches stage)
    (hkept : keptUnder record? state call.key = keptUnder record? state' call.key) :
    (call.finish store state stage).1 = (call.finish store state' stage).1 ∧
      keptUnder record? (call.finish store state stage).2 call.key =
        keptUnder record? (call.finish store state' stage).2 call.key := by
  cases stage with
  | waiting => exact ⟨rfl, hkept⟩
  | ended answer => exact ⟨rfl, hkept⟩
  | reviewed r =>
    unfold key at hkept ⊢
    cases hsession : call.session with
    | none =>
      simp only [finish, hsession]
      exact ⟨rfl, rfl⟩
    | some owner =>
      simp only [finish, hsession, RecordStore.saveFor_some] at hkept ⊢
      have hsame : (store.save state owner r).1 = (store.save state' owner r).1 :=
        h.refuses_congr hstate hstate'
      refine ⟨by rw [hsame], ?_⟩
      rcases hsave : store.save state owner r with ⟨saved, next⟩
      rcases hsave' : store.save state' owner r with ⟨saved', next'⟩
      obtain rfl : saved = saved' := by rwa [hsave, hsave'] at hsame
      cases saved with
      | error f =>
        rw [h.leaves hstate owner r f next hsave, h.leaves hstate' owner r f next' hsave']
        exact hkept
      | ok _ =>
        have hself := ((h.keeps hstate).of_save hsave).1
        have hself' := ((h.keeps hstate').of_save hsave').1
        rw [hstage r rfl] at hself hself'
        exact hself.trans hself'.symm

end Store.MarkCall

namespace Store

/-! ### Moments -/

variable {σ κ ι : Type}

/-- The state of a store while marks run, and how far each of them has come. -/
structure Moment (σ ι : Type) where
  state : σ
  stage : ι → Stage

namespace Moment

/-- The moment before the first half. -/
def start (state : σ) : Moment σ ι := ⟨state, fun _ ↦ .waiting⟩

/-- A moment that a store can come to, and at which every mark holds a record of its own card. -/
structure Sound (Valid : σ → Prop) (calls : ι → MarkCall) (c : Moment σ ι) : Prop where
  valid : Valid c.state
  reaches : ∀ i, (calls i).Reaches (c.stage i)

/-- Moments that look the same to a key: what is kept under it is the same, and its marks have come
equally far. -/
structure LooksLike (record? : σ → Subject → CardId → Option κ) (calls : ι → MarkCall)
    (k : Session × CardId) (c c' : Moment σ ι) : Prop where
  kept : keptUnder record? c.state k = keptUnder record? c'.state k
  stage : ∀ i, (calls i).key = k → c.stage i = c'.stage i

section Looks

variable {Valid : σ → Prop} {record? : σ → Subject → CardId → Option κ} {calls : ι → MarkCall}
  {c c' c'' : Moment σ ι} {k : Session × CardId}

theorem sound_start {state : σ} (hstate : Valid state) :
    (start state : Moment σ ι).Sound Valid calls :=
  ⟨hstate, fun _ _ h ↦ by cases h⟩

theorem LooksLike.refl (c : Moment σ ι) : c.LooksLike record? calls k c := ⟨rfl, fun _ _ ↦ rfl⟩

theorem LooksLike.symm (h : c.LooksLike record? calls k c') : c'.LooksLike record? calls k c :=
  ⟨h.kept.symm, fun i hi ↦ (h.stage i hi).symm⟩

theorem LooksLike.trans (h : c.LooksLike record? calls k c')
    (h' : c'.LooksLike record? calls k c'') : c.LooksLike record? calls k c'' :=
  ⟨h.kept.trans h'.kept, fun i hi ↦ (h.stage i hi).trans (h'.stage i hi)⟩

end Looks

/-! ### Steps -/

variable [DecidableEq ι]

/-- The moment after one more half. -/
def step (store : RecordStore σ) (calls : ι → MarkCall) (c : Moment σ ι) : Half ι → Moment σ ι
  | .load i => ⟨c.state, Function.update c.stage i ((calls i).begin store c.state)⟩
  | .save i =>
    let (stage, next) := (calls i).finish store c.state (c.stage i)
    ⟨next, Function.update c.stage i stage⟩

/-- The moment after a row of halves. -/
def run (store : RecordStore σ) (calls : ι → MarkCall) (c : Moment σ ι) (halves : List (Half ι)) :
    Moment σ ι := halves.foldl (step store calls) c

section Steps

variable {store : RecordStore σ} {Valid : σ → Prop} {record? : σ → Subject → CardId → Option κ}
  {kept : Record → κ} {calls : ι → MarkCall} {c c' : Moment σ ι} {half : Half ι}
  {k : Session × CardId}

/-- After a half only its own mark has come further. -/
theorem stage_step_of_ne {i : ι} (hi : i ≠ half.task) :
    (c.step store calls half).stage i = c.stage i := by
  cases half <;> exact Function.update_of_ne hi _ _

variable (h : store.KeepsApart Valid record? kept)

include h

theorem Sound.step (hc : c.Sound Valid calls) (half : Half ι) :
    (c.step store calls half).Sound Valid calls := by
  have hother : ∀ i, i ≠ half.task → (calls i).Reaches ((c.step store calls half).stage i) := by
    intro i hi
    rw [stage_step_of_ne hi]
    exact hc.reaches i
  cases half with
  | load i =>
    refine ⟨hc.valid, fun j ↦ ?_⟩
    by_cases hj : j = i
    · subst hj
      simpa only [Moment.step, Function.update_self] using MarkCall.reaches_begin h hc.valid
    · exact hother j hj
  | save i =>
    refine ⟨MarkCall.valid_finish h hc.valid, fun j ↦ ?_⟩
    by_cases hj : j = i
    · subst hj
      simpa only [Moment.step, Function.update_self] using MarkCall.reaches_finish (hc.reaches j)
    · exact hother j hj

/-- A half of another key is not seen. -/
theorem looksLike_step_of_ne (hc : c.Sound Valid calls) (hk : (calls half.task).key ≠ k) :
    (c.step store calls half).LooksLike record? calls k c := by
  refine ⟨?_, fun i hi ↦ stage_step_of_ne fun heq ↦ hk (heq ▸ hi)⟩
  cases half with
  | load i => rfl
  | save i => exact MarkCall.keptUnder_finish_of_ne h hc.valid (hc.reaches i) hk

/-- After a half of the key itself moments still look the same. -/
theorem LooksLike.step (hlike : c.LooksLike record? calls k c') (hc : c.Sound Valid calls)
    (hc' : c'.Sound Valid calls) (hk : (calls half.task).key = k) :
    (c.step store calls half).LooksLike record? calls k (c'.step store calls half) := by
  have hother : ∀ i, (calls i).key = k → i ≠ half.task →
      (c.step store calls half).stage i = (c'.step store calls half).stage i := by
    intro i hi hne
    rw [stage_step_of_ne hne, stage_step_of_ne hne]
    exact hlike.stage i hi
  subst hk
  cases half with
  | load i =>
    refine ⟨hlike.kept, fun j hj ↦ ?_⟩
    by_cases hji : j = i
    · subst hji
      have hbegin : (calls j).begin store c.state = (calls j).begin store c'.state :=
        MarkCall.begin_congr h hc.valid hc'.valid hlike.kept
      simpa only [Moment.step, Function.update_self] using hbegin
    · exact hother j hj hji
  | save i =>
    obtain ⟨hstage, hkept⟩ :=
      MarkCall.finish_congr h hc.valid hc'.valid (hc.reaches i) hlike.kept
    have hsame : c.stage i = c'.stage i := hlike.stage i rfl
    refine ⟨?_, fun j hj ↦ ?_⟩
    · simpa only [Moment.step, Half.task_save, ← hsame] using hkept
    · by_cases hji : j = i
      · subst hji
        simpa only [Moment.step, Function.update_self, ← hsame] using hstage
      · exact hother j hj hji

/-- Of a row of halves a key sees its own. -/
theorem LooksLike.run_filter (hlike : c.LooksLike record? calls k c') (hc : c.Sound Valid calls)
    (hc' : c'.Sound Valid calls) (halves : List (Half ι)) :
    (c.run store calls halves).LooksLike record? calls k
      (c'.run store calls (halves.filter fun half ↦ decide ((calls half.task).key = k))) := by
  induction halves generalizing c c' with
  | nil => exact hlike
  | cons half halves ih =>
    by_cases hk : (calls half.task).key = k
    · rw [List.filter_cons_of_pos (by simpa using hk)]
      exact ih (hlike.step h hc hc' hk) (hc.step h half) (hc'.step h half)
    · rw [List.filter_cons_of_neg (by simpa using hk)]
      exact ih ((looksLike_step_of_ne h hc hk).trans hlike) (hc.step h half) hc'

/-- Two rows of halves of which a key sees the same lead to moments that look the same to it. -/
theorem looksLike_of_filter_eq (hc : c.Sound Valid calls) {halves halves' : List (Half ι)}
    (hfilter : halves.filter (fun half ↦ decide ((calls half.task).key = k)) =
      halves'.filter fun half ↦ decide ((calls half.task).key = k)) :
    (c.run store calls halves).LooksLike record? calls k (c.run store calls halves') := by
  have hrefl : c.LooksLike record? calls k c := .refl c
  have hhalves := hrefl.run_filter h hc hc halves
  rw [hfilter] at hhalves
  exact hhalves.trans (hrefl.run_filter h hc hc halves').symm

theorem Sound.run (hc : c.Sound Valid calls) (halves : List (Half ι)) :
    (c.run store calls halves).Sound Valid calls := by
  induction halves generalizing c with
  | nil => exact hc
  | cons half halves ih => exact ih (hc.step h half)

end Steps

/-! ### Marks in turn -/

variable {store : RecordStore σ} {calls : ι → MarkCall}

/-- The halves of a mark side by side make up the mark. -/
theorem run_inTurn_cons (c : Moment σ ι) (i : ι) (tasks : List ι) :
    c.run store calls (inTurn (i :: tasks)) =
      run store calls ⟨((calls i).attempt store c.state).2,
        Function.update c.stage i (.ended ((calls i).attempt store c.state).1)⟩ (inTurn tasks) := by
  have hhalves : step store calls (step store calls c (.load i)) (.save i) =
      ⟨((calls i).attempt store c.state).2,
        Function.update c.stage i (.ended ((calls i).attempt store c.state).1)⟩ := by
    simp only [step, Function.update_self, MarkCall.finish_begin, Function.update_idem]
  rw [inTurn_cons, run, List.foldl_cons, List.foldl_cons, hhalves]
  rfl

/-- Marks that are not in the row come no further. -/
theorem stage_run_of_notMem (c : Moment σ ι) {i : ι} {halves : List (Half ι)}
    (hi : ∀ half ∈ halves, half.task ≠ i) : (c.run store calls halves).stage i = c.stage i := by
  induction halves generalizing c with
  | nil => rfl
  | cons half halves ih =>
    obtain ⟨hhalf, hhalves⟩ := List.forall_mem_cons.1 hi
    exact (ih (c.step store calls half) hhalves).trans (stage_step_of_ne hhalf.symm)

theorem state_run_inTurn (c : Moment σ ι) (tasks : List ι) :
    (c.run store calls (inTurn tasks)).state = (serial store c.state (tasks.map calls)).2 := by
  induction tasks generalizing c with
  | nil => rfl
  | cons i tasks ih =>
    rw [run_inTurn_cons, ih]
    rfl

/-- Marks in turn come to what they come to one after the other. -/
theorem map_stage_run_inTurn (c : Moment σ ι) {tasks : List ι} (h : tasks.Nodup) :
    tasks.map (c.run store calls (inTurn tasks)).stage =
      (serial store c.state (tasks.map calls)).1.map .ended := by
  induction tasks generalizing c with
  | nil => rfl
  | cons i tasks ih =>
    obtain ⟨hi, htasks⟩ := List.nodup_cons.1 h
    have hothers : ∀ half ∈ inTurn tasks, half.task ≠ i :=
      fun half hhalf heq ↦ hi (heq ▸ task_mem_of_mem_inTurn hhalf)
    rw [run_inTurn_cons, List.map_cons, stage_run_of_notMem _ hothers, ih _ htasks]
    simp only [Function.update_self, serial, List.map_cons]

end Moment

/-! ### Interleaved marks -/

/-- A moment that marks lead to from a state just as if they had run one after the other, in this
order. They return the same, and what is kept is the same. Under each key everything is as if there
were no marks but its own, and each of these had run once. -/
structure Moment.AsInTurn (last : Moment σ ι) (store : RecordStore σ) (state : σ)
    (Same : σ → σ → Prop) (record? : σ → Subject → CardId → Option κ) (calls : ι → MarkCall)
    (order : List ι) : Prop where
  answers : order.map last.stage = (serial store state (order.map calls)).1.map .ended
  same : Same last.state (serial store state (order.map calls)).2
  kept : ∀ owner card, record? last.state owner card =
    record? (serial store state (order.map calls)).2 owner card
  own : ∀ owner card, let own := order.filter fun i ↦ (calls i).key = (some owner, card)
    own.map last.stage = (serial store state (own.map calls)).1.map .ended ∧
      record? last.state owner card = record? (serial store state (own.map calls)).2 owner card

/-- From this state marks of different keys may interleave freely: they lead to the same as one
after the other, in every order that leaves the marks of one key in theirs, and there is such an
order. -/
def InterleavesFreely (store : RecordStore σ) (state : σ) (Same : σ → σ → Prop)
    (record? : σ → Subject → CardId → Option κ) : Prop :=
  ∀ (ι : Type) [DecidableEq ι] (calls : ι → MarkCall) (w : Interleaving fun i ↦ (calls i).key),
    (∃ order, w.AgreesWith order) ∧ ∀ order, w.AgreesWith order →
      ((Moment.start state).run store calls w.halves).AsInTurn store state Same record? calls order

open Moment in
/-- Marks interleave freely in a store that keeps records apart, if states are the same as soon as
the same is kept in them. -/
theorem interleavesFreely {store : RecordStore σ} {Valid : σ → Prop} {Same : σ → σ → Prop}
    {record? : σ → Subject → CardId → Option κ} {kept : Record → κ}
    (h : store.KeepsApart Valid record? kept) {state : σ} (hstate : Valid state)
    (hsame : ∀ {s s'}, Valid s → Valid s' →
      (∀ owner card, record? s owner card = record? s' owner card) → Same s s') :
    InterleavesFreely store state Same record? := by
  intro ι _ calls w
  refine ⟨w.exists_agreesWith, fun order horder ↦ ?_⟩
  have hstart : (start state : Moment σ ι).Sound Valid calls := sound_start hstate
  have hnodup : order.Nodup := horder.perm.nodup_iff.2 w.nodup
  have hstates : ∀ tasks, ((start state).run store calls (inTurn tasks)).state =
      (serial store state (tasks.map calls)).2 := state_run_inTurn (start state)
  have hanswers : ∀ {tasks : List ι}, tasks.Nodup →
      tasks.map ((start state).run store calls (inTurn tasks)).stage =
        (serial store state (tasks.map calls)).1.map .ended := map_stage_run_inTurn (start state)
  -- a key sees the same of the interleaving, of all marks in turn, and of its own marks in turn
  have hturn : ∀ k, ((start state).run store calls w.halves).LooksLike record? calls k
      ((start state).run store calls (inTurn order)) := by
    intro k
    refine looksLike_of_filter_eq h hstart ((Interleaving.filter_key horder k).trans ?_)
    exact (filter_inTurn (fun i ↦ decide ((calls i).key = k)) order).symm
  have hown : ∀ k, ((start state).run store calls w.halves).LooksLike record? calls k
      ((start state).run store calls
        (inTurn (order.filter fun i ↦ decide ((calls i).key = k)))) := by
    intro k
    refine looksLike_of_filter_eq h hstart ((Interleaving.filter_key horder k).trans ?_)
    rw [filter_inTurn fun i ↦ decide ((calls i).key = k), List.filter_filter]
    simp only [Bool.and_self]
  have hkept : ∀ owner card, record? ((start state).run store calls w.halves).state owner card =
      record? (serial store state (order.map calls)).2 owner card :=
    fun owner card ↦ hstates order ▸ (hturn (some owner, card)).kept
  refine ⟨?_, ?_, hkept, fun owner card ↦ ⟨?_, ?_⟩⟩
  · rw [← hanswers hnodup]
    exact List.map_congr_left fun i _ ↦ (hturn (calls i).key).stage i rfl
  · refine hsame (hstart.run h _).valid ?_ hkept
    rw [← hstates]
    exact (hstart.run h _).valid
  · rw [← hanswers (hnodup.filter _)]
    refine List.map_congr_left fun i hi ↦ (hown (some owner, card)).stage i ?_
    exact of_decide_eq_true (List.mem_filter.1 hi).2
  · rw [← hstates]
    exact (hown (some owner, card)).kept

/-! ### Records in memory -/

/-- Whose record of which card an entry is. -/
def Entry.key (e : Entry) : Subject × CardId := (e.owner, e.record.card)

namespace Memory

theorem nodup_insert {m : Memory} (h : (m.entries.map Entry.key).Nodup) (owner : Subject)
    (r : Record) : ((m.insert owner r).entries.map Entry.key).Nodup := by
  refine List.nodup_cons.2 ⟨fun hmem ↦ ?_, h.sublist (List.filter_sublist.map _)⟩
  obtain ⟨e, he, hkey⟩ := List.mem_map.1 hmem
  obtain ⟨howner, hcard⟩ := Prod.mk.inj hkey
  have habout : isAbout owner r.card e = true := isAbout_iff.2 ⟨howner, hcard⟩
  simpa [habout] using (List.mem_filter.1 he).2

/-- Records in memory are kept apart. -/
theorem keepsApart :
    store.KeepsApart (fun m ↦ (m.entries.map Entry.key).Nodup) find? id where
  keeps _ := keeps _
  leaves _ := savesOrLeaves _
  valid_of_save h hsave := (Prod.mk.inj hsave).2 ▸ nodup_insert h _ _
  load_congr _ _ hfind := congrArg Except.ok hfind
  refuses_congr _ _ := rfl

/-- An entry is found if its record is. -/
theorem find?_entries (m : Memory) (e : Entry) :
    m.entries.find? (fun e' ↦ decide (e'.key = e.key)) =
      (m.find? e.owner e.record.card).map fun r ↦ ⟨e.owner, r⟩ := by
  have habout : isAbout e.owner e.record.card = fun e' ↦ decide (e'.key = e.key) := by
    funext e'
    rw [Bool.eq_iff_iff, isAbout_iff, decide_eq_true_iff, Entry.key, Entry.key, Prod.mk.injEq]
  rw [find?, habout]
  cases hfound : m.entries.find? (fun e' ↦ decide (e'.key = e.key)) with
  | none => rfl
  | some found =>
    have hkey : found.key = e.key := by simpa using List.find?_some hfound
    rw [← (Prod.mk.inj hkey).1]
    rfl

/-- Memories with the same records have the same entries. -/
theorem perm_of_find?_eq {m m' : Memory} (h : (m.entries.map Entry.key).Nodup)
    (h' : (m'.entries.map Entry.key).Nodup)
    (hfind : ∀ owner card, m.find? owner card = m'.find? owner card) :
    m.entries.Perm m'.entries := by
  refine Store.perm_of_find?_eq h h' fun e ↦ ?_
  show m.entries.find? (fun e' ↦ decide (e'.key = e.key)) =
    m'.entries.find? fun e' ↦ decide (e'.key = e.key)
  rw [find?_entries, find?_entries, hfind]

end Memory

/-! ### Records in the database -/

namespace Database

/-- Are the rows of two databases the same? Review records may be in different orders. -/
structure SameRows (db db' : Database) : Prop where
  cards : db.cards = db'.cards
  tags : db.tags = db'.tags
  quizzes : db.quizzes.Perm db'.quizzes

/-- What marks can lead to: only the review records of cards that are there are changed. -/
structure Reviewed (first db : Database) : Prop where
  cards : db.cards = first.cards
  tags : db.tags = first.tags
  nodup_quizzes : (db.quizzes.map (·.id)).Nodup
  quiz? : ∀ id ∉ first.cards.map (·.id), db.quiz? id = first.quiz? id

variable {first db db' : Database} {owner : Subject} {id : CardId}

theorem Reviewed.owned? (h : Reviewed first db) (owner : Subject) (id : CardId) :
    db.owned? owner id = first.owned? owner id := by
  rw [Database.owned?, h.cards, Database.owned?]

theorem Reviewed.putQuiz (h : Reviewed first db) {row : QuizRow}
    (howned : (db.owned? owner row.id).isSome = true) : Reviewed first (db.putQuiz row) := by
  have hid : row.id ∈ first.cards.map (·.id) := by
    rw [h.owned?] at howned
    obtain ⟨card, hcard, hkey⟩ := List.mem_map.1 (first.isSome_owned?_iff.1 howned)
    exact List.mem_map.2 ⟨card, hcard, (Prod.mk.inj hkey).1⟩
  refine ⟨?_, ?_, ?_, fun id hmem ↦ ?_⟩
  · rw [putQuiz_eq]
    exact h.cards
  · rw [putQuiz_eq]
    exact h.tags
  · rw [putQuiz_ids]
    exact nodup_append_if h.nodup_quizzes _
  · have hne : row.id ≠ id := fun heq ↦ hmem (heq ▸ hid)
    rw [quiz?_putQuiz, if_neg hne]
    exact h.quiz? id hmem

/-- Records in the database are kept apart. -/
theorem keepsApart (hkeys : (first.cards.map (·.id)).Nodup) :
    store.KeepsApart (Reviewed first) record? QuizRow.write where
  keeps h := keeps (by rwa [h.cards])
  leaves _ := savesOrLeaves _
  valid_of_save h hsave := by
    obtain ⟨howned, rfl⟩ := eq_putQuiz_of_save hsave
    exact h.putQuiz howned
  load_congr {db db' owner id} _ _ hrecord := by
    show db.load owner id = db'.load owner id
    rw [load_eq_record?, load_eq_record?, hrecord]
  refuses_congr {db db' owner r} h h' := by
    have howned : db'.owned? owner r.card = db.owned? owner r.card :=
      (h'.owned? owner r.card).trans (h.owned? owner r.card).symm
    show (db.save owner r).1 = (db'.save owner r).1
    cases hcard : db.owned? owner r.card with
    | none => rw [save_of_not_owned hcard, save_of_not_owned (howned.trans hcard)]
    | some card =>
      have hsome : (db.owned? owner r.card).isSome = true := Option.isSome_of_eq_some hcard
      rw [save_of_owned hsome, save_of_owned (howned ▸ hsome)]

/-- Databases with the same records that marks have led to have the same rows. -/
theorem Reviewed.sameRows (h : Reviewed first db) (h' : Reviewed first db')
    (hrecord : ∀ owner id, db.record? owner id = db'.record? owner id) : db.SameRows db' := by
  refine ⟨h.cards.trans h'.cards.symm, h.tags.trans h'.tags.symm,
    perm_of_find?_eq h.nodup_quizzes h'.nodup_quizzes fun row ↦ ?_⟩
  show db.quiz? row.id = db'.quiz? row.id
  by_cases hid : row.id ∈ first.cards.map (·.id)
  · obtain ⟨card, hcard, hkey⟩ := List.mem_map.1 hid
    have howned : (first.owned? card.owner row.id).isSome = true :=
      first.isSome_owned?_iff.2 (List.mem_map.2 ⟨card, hcard, by rw [hkey]⟩)
    obtain ⟨found, hfound⟩ := Option.isSome_iff_exists.1 howned
    simpa only [record?, h.owned?, h'.owned?, hfound, Option.bind_some] using
      hrecord card.owner row.id
  · rw [h.quiz? _ hid, h'.quiz? _ hid]

end Database

/-! ### Marks of different cards -/

/-- Marks of different cards may interleave freely, in memory and in the database. A mark loads and
later saves, and other marks run in between, but none of the same user and card. Then each mark
returns what it returns if the marks run one after the other, in any order that leaves the marks of
a user and card in theirs, and the same is stored in the end. The record of a user and card is what
the marks of this user and card make of it, each of them once. No two records in memory are of one
user and card, and no two rows of the tables of cards and of review records have one key. -/
theorem marks_interleave_freely (m : Memory) (db : Database)
    (hentries : (m.entries.map Entry.key).Nodup) (hcards : (db.cards.map (·.id)).Nodup)
    (hquizzes : (db.quizzes.map (·.id)).Nodup) :
    InterleavesFreely Memory.store m (fun m m' ↦ m.entries.Perm m'.entries) Memory.find? ∧
      InterleavesFreely Database.store db Database.SameRows Database.record? :=
  ⟨interleavesFreely Memory.keepsApart hentries Memory.perm_of_find?_eq,
    interleavesFreely (Database.keepsApart hcards) ⟨rfl, rfl, hquizzes, fun _ _ ↦ rfl⟩
      Database.Reviewed.sameRows⟩

/-- Between the halves of a mark another card is marked, and before this is done the first card is
marked once more. -/
theorem marks_interleave_freely_of_three :
    let alice : Subject := ⟨"alice"⟩
    let card := CardId.ofCard alice .hanzi "学"
    let other := CardId.ofCard alice .hanzi "好"
    let db : Database :=
      ⟨[⟨card, alice, "hanzi", "学", none⟩, ⟨other, alice, "hanzi", "好", none⟩], [], []⟩
    let calls : Fin 3 → MarkCall := ![⟨.standard, some alice, card, .wrong, .epoch⟩,
      ⟨.standard, some alice, other, .right, .epoch⟩, ⟨.standard, some alice, card, .wrong, .epoch⟩]
    let halves : List (Half (Fin 3)) := [.load 0, .load 1, .save 0, .load 2, .save 1, .save 2]
    (Memory.empty.entries.map Entry.key).Nodup ∧ (db.cards.map (·.id)).Nodup ∧
      (db.quizzes.map (·.id)).Nodup ∧
      ((Moment.start .empty).run Memory.store calls halves).AsInTurn Memory.store .empty
        (fun m m' ↦ m.entries.Perm m'.entries) Memory.find? calls [1, 0, 2] ∧
      ((Moment.start db).run Database.store calls halves).AsInTurn Database.store db
        Database.SameRows Database.record? calls [1, 0, 2] := by
  intro alice card other db calls halves
  have hne : card ≠ other := by
    intro heq
    exact absurd (congrArg CardId.digest heq) (by decide +kernel)
  have hentries : (Memory.empty.entries.map Entry.key).Nodup := List.nodup_nil
  have hcards : (db.cards.map (·.id)).Nodup := by simp [db, hne]
  have hquizzes : (db.quizzes.map (·.id)).Nodup := List.nodup_nil
  -- only the first and the last mark are of the same card
  have hkey : ∀ i j, i ≠ j → (calls i).key = (calls j).key → i = 0 ∧ j = 2 ∨ i = 2 ∧ j = 0 := by
    intro i j hij heq
    fin_cases i <;> fin_cases j <;> simp_all [calls, MarkCall.key, Ne.symm hne]
  let w : Interleaving fun i ↦ (calls i).key :=
    { tasks := [0, 1, 2]
      halves := halves
      nodup := by decide
      perm := by decide
      load_before_save := by decide
      apart := by
        intro i _ j _ hij heq
        rcases hkey i j hij heq with ⟨rfl, rfl⟩ | ⟨rfl, rfl⟩
        · exact .inl (by decide)
        · exact .inr (by decide) }
  have hlast : ¬ Before halves (.save 2) (.load 0) := by decide
  have hperm : [1, 0, 2].Perm ([0, 1, 2] : List (Fin 3)) := by decide
  have horder : w.AgreesWith [1, 0, 2] := by
    refine ⟨hperm, fun i hi j _ heq hbefore ↦ ?_⟩
    have hij : i ≠ j := by
      rintro rfl
      exact Nat.lt_asymm hbefore (w.load_before_save i hi)
    rcases hkey i j hij heq with ⟨rfl, rfl⟩ | ⟨rfl, rfl⟩
    · decide
    · exact absurd hbefore hlast
  obtain ⟨hmemory, hdatabase⟩ := marks_interleave_freely .empty db hentries hcards hquizzes
  exact ⟨hentries, hcards, hquizzes, (hmemory (Fin 3) calls w).2 _ horder,
    (hdatabase (Fin 3) calls w).2 _ horder⟩

end Store

end SpacedReview
