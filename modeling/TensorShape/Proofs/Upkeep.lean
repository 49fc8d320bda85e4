import TensorShape.Proofs.Evaluation

/-! # What operations keep up

A property of values is `Hereditary` if a value has it just when all that the value holds
has it.  An `Upkeep` is such a property, together with one of the cursors that survives
drawing from any cursor that a value with the property mentions, and the ways in which
work may fail.

Taking a value apart, drawing items and writing stay within an upkeep
(`ensures_next`, `ensures_pair?`, `ensures_write`).  `Maintains` says the same of a
computation that leaves other traces as well and may fail, and is carried through the
steps of a computation one by one. -/
namespace TensorShape

variable {α β : Type}

/-! ## Properties that go down -/

/-- Integers, truth values and text have the property, and what holds other values has it just if
these have it.  Of a live view it may ask more, as long as a label makes no difference. -/
structure Hereditary (H : Value → Prop) : Prop where
  int : ∀ n, H (.int n)
  bool : ∀ b, H (.bool b)
  text : ∀ t, H (.text t)
  list : ∀ items, H (.list items) ↔ ∀ v ∈ items, H v
  tuple : ∀ items, H (.tuple items) ↔ ∀ v ∈ items, H v
  dict : ∀ entries, H (.dict entries) ↔ ∀ e ∈ entries, H e.1 ∧ H e.2
  axisPair : ∀ x t, H (.axisPair x t) ↔ H x ∧ H t
  iterable : ∀ object access items, H (.iterable object access items) ↔ ∀ v ∈ items, H v
  mapping : ∀ object cursors entries,
    H (.mapping object cursors entries) ↔ ∀ e ∈ entries, H e.1 ∧ H e.2
  tensor : ∀ object v, H (.tensor object v) ↔ H v
  view : ∀ label pairs fault length,
    H (.view label pairs fault length) ↔ ∀ p ∈ pairs, H p.1 ∧ H p.2
  liveView : ∀ label first second, H (.liveView label first second) → H first ∧ H second
  relabelled : ∀ label label' first second,
    H (.liveView label first second) → H (.liveView label' first second)
  /-- A view is live if one of the two values has to be drawn from. -/
  paired : ∀ first second, first.isIterable = true → second.isIterable = true →
    first.pass? = none ∨ second.pass? = none → H first → H second →
    H (.liveView none first second)

/-- What a source holds itself has a property, the cursors included that it draws from. -/
def Source.Holds (H : Value → Prop) : Source → Prop
  | own pass => ∀ item ∈ pass.items, H item
  | shared place => ∃ kind, H (.cursor kind place)
  | zip first second => Holds H first ∧ Holds H second

theorem Source.holds_ended (H : Value → Prop) : Source.ended.Holds H := nofun

namespace Hereditary

variable {H : Value → Prop} (hereditary : Hereditary H)
include hereditary

theorem dimensions (s : Shape) : ∀ v ∈ Value.dimensions s, H v := by
  intro v held
  obtain ⟨d, _, rfl⟩ := List.mem_map.mp held
  exact hereditary.int d

theorem layout (s : Shape) : ∀ v ∈ Value.layout s, H v := by
  intro v held
  obtain ⟨t, _, rfl⟩ := List.mem_map.mp held
  exact hereditary.text (.tag t)

/-- A pass over a value gives what the value holds. -/
theorem pass {v : Value} (h : H v) {pass : Pass} (e : v.pass? = some pass) :
    ∀ item ∈ pass.items, H item := by
  -- the kinds that hold no items drop out with `e`
  cases v <;> cases e <;> simp only [Pass.ofList]
  case text t =>
    intro item held
    obtain ⟨c, _, rfl⟩ := List.mem_map.mp held
    exact hereditary.text (.plain c.toString)
  case list => exact (hereditary.list _).mp h
  case tuple => exact (hereditary.tuple _).mp h
  case dict =>
    intro key held
    obtain ⟨entry, found, rfl⟩ := List.mem_map.mp held
    exact ((hereditary.dict _).mp h entry found).1
  case mapping =>
    intro key held
    obtain ⟨entry, found, rfl⟩ := List.mem_map.mp held
    exact ((hereditary.mapping _ _ _).mp h entry found).1
  case bytes =>
    intro item held
    obtain ⟨octet, _, rfl⟩ := List.mem_map.mp held
    exact hereditary.int _
  case shape s => exact hereditary.dimensions s
  case axisPair => simpa using (hereditary.axisPair _ _).mp h
  case iterable => exact (hereditary.iterable _ _ _).mp h
  case view =>
    intro item held
    obtain ⟨pair, found, rfl⟩ := List.mem_map.mp held
    exact (hereditary.axisPair _ _).mpr ((hereditary.view _ _ _ _).mp h pair found)

/-- What a pass over a value draws from holds what the value holds. -/
theorem source {v : Value} (h : H v) {source : Source} (e : v.source = .ok source) :
    source.Holds H := by
  fun_induction Value.source v generalizing source with
  | case1 kind place => cases e; exact ⟨kind, h⟩
  | case2 label first second ihFirst ihSecond =>
    obtain ⟨first', second'⟩ := hereditary.liveView _ _ _ h
    cases drawn : first.source <;> cases drawn' : second.source <;> rw [drawn, drawn'] at e <;>
      cases e
    exact ⟨ihFirst first' drawn, ihSecond second' drawn'⟩
  | case3 v _ _ pass holds => cases e; exact hereditary.pass h holds
  | case4 v _ _ empty => cases e

omit hereditary in
theorem zip {p q : Pass} (hp : ∀ v ∈ p.items, H v) (hq : ∀ v ∈ q.items, H v) :
    ∀ pair ∈ (p.zip q).1, H pair.1 ∧ H pair.2 := by
  have paired (xs ys : List Value) (hx : ∀ v ∈ xs, H v) (hy : ∀ v ∈ ys, H v) :
      ∀ pair ∈ (Pass.zip.pairs p q xs ys).1, H pair.1 ∧ H pair.2 := by
    fun_induction Pass.zip.pairs p q xs ys with
    | case1 x xs y ys ih =>
      obtain ⟨x', xs'⟩ := List.forall_mem_cons.mp hx
      obtain ⟨y', ys'⟩ := List.forall_mem_cons.mp hy
      exact List.forall_mem_cons.mpr ⟨⟨x', y'⟩, ih xs' ys'⟩
    | _ => nofun
  exact paired _ _ hp hq

theorem viewOver {first second : Value} (hf : H first) (hs : H second) :
    H (.viewOver first second) := by
  have broken (typeName : String) : H (Value.viewOver.broken first typeName) :=
    (hereditary.view _ _ _ _).mpr nofun
  rw [Value.viewOver]
  cases iterable : first.isIterable with
  | false => exact broken _
  | true =>
    cases iterable' : second.isIterable with
    | false => exact broken _
    | true =>
      cases p : first.pass? with
      | none => exact hereditary.paired _ _ iterable iterable' (.inl p) hf hs
      | some pass =>
        cases q : second.pass? with
        | none => exact hereditary.paired _ _ iterable iterable' (.inr q) hf hs
        | some pass' =>
          exact (hereditary.view _ _ _ _).mpr (zip (hereditary.pass hf p) (hereditary.pass hs q))

theorem pairsOf (s : Shape) : H (.pairsOf s) :=
  hereditary.viewOver ((hereditary.tuple _).mpr (hereditary.dimensions s))
    ((hereditary.tuple _).mpr (hereditary.layout s))

/-- A label takes nothing away from a view and adds nothing. -/
theorem labelled {v : Value} (h : H v) (label : Nat) : H (v.labelled label) := by
  unfold Value.labelled
  split
  · exact (hereditary.view _ _ _ _).mpr ((hereditary.view _ _ _ _).mp h)
  · exact hereditary.relabelled _ _ _ _ h
  · exact h

/-- No question about a shape has anything but a number, a truth value or text for an answer. -/
theorem answer {s : Shape} {query : Query} {v : Value} (h : s.answer query = .ok v) : H v := by
  have extent {result : Except Failure Int} (h : result.map .int = .ok v) : H v := by
    cases result <;> cases h
    exact hereditary.int _
  have truth {result : Except Failure Bool} (h : result.map .bool = .ok v) : H v := by
    cases result <;> cases h
    exact hereditary.bool _
  have ofEnd {result : Except Cause Int} (h : (result.map .int).mapError Failure.rejected = .ok v) :
      H v := by
    cases result <;> cases h
    exact hereditary.int _
  cases query with
  | head => exact ofEnd h
  | tail => exact ofEnd h
  | matrix query =>
    cases query with
    | rows => exact extent h
    | columns => exact extent h
    | _ => exact truth h
  | isScalar | isMatrix | isLayoutKnown => cases h; exact hereditary.bool _
  | layoutSpelling => cases h; exact hereditary.text _
  | display =>
    change ((Fault.showing s.dimensions s.display).map Value.plain).mapError Failure.fault
      = .ok v at h
    cases shown : Fault.showing s.dimensions s.display <;> rw [shown] at h <;> cases h
    exact hereditary.text _
  | _ => cases h; exact hereditary.int _

end Hereditary

/-! ## Upkeep -/

/-- **What is known throughout**: of the values that are about, of the cursors, and of the ways to
fail. -/
structure Upkeep where
  Held : Value → Prop
  Kept : List Source → Prop
  Fails : Failure → Prop
  hereditary : Hereditary Held
  /-- Shapes that have been checked may come up at any time. -/
  shape : ∀ s : Shape, s.Valid → Held (.shape s)
  /-- What a cursor has still to give is known if the cursor may be mentioned. -/
  source : ∀ cursors kind place, Kept cursors → Held (.cursor kind place) →
    (cursors.getD place .ended).Holds Held
  /-- A cursor that may be mentioned may be moved on. -/
  set : ∀ cursors kind place source, Kept cursors → Held (.cursor kind place) →
    source.Holds Held → Kept (cursors.set place source)
  /-- Only an unfit part of a diagnostic may be ruled out. -/
  fails : ∀ failure, (∀ part, failure ≠ .unfit part) → Fails failure

/-- A cursor may be opened over whatever is known. -/
def Upkeep.Opens (u : Upkeep) : Prop :=
  ∀ cursors kind source, u.Kept cursors → source.Holds u.Held →
    u.Kept (cursors ++ [source]) ∧ u.Held (.cursor kind cursors.length)

namespace Upkeep

variable (u : Upkeep)

/-! ## Drawing -/

variable {u} {advance : Nat → Draw (Option Value)}

theorem ensures_nextWith
    (advances : ∀ kind place, u.Held (.cursor kind place) →
      Ensures u.Kept (advance place) fun item => ∀ v ∈ item, u.Held v)
    {source : Source} (h : source.Holds u.Held) :
    Ensures u.Kept (source.nextWith advance)
      fun step => ∀ s ∈ step, u.Held s.1 ∧ s.2.Holds u.Held := by
  induction source with
  | own pass =>
    obtain ⟨items, fault⟩ := pass
    match items, fault with
    | [], none => exact .pure nofun
    | [], some fault => exact .throw fault
    | item :: rest, fault =>
      refine .pure fun s e => ?_
      cases e
      exact List.forall_mem_cons.mp h
  | shared place =>
    obtain ⟨kind, mentioned⟩ := h
    refine (advances kind place mentioned).bind fun item given => .pure fun s e => ?_
    obtain ⟨v, found, rfl⟩ := Option.map_eq_some_iff.mp e
    exact ⟨given v found, kind, mentioned⟩
  | zip first second ihFirst ihSecond =>
    refine (ihFirst h.1).bind fun step given => ?_
    -- the second source is drawn from whether or not the first has given an item
    cases step with
    | none =>
      refine (ihSecond h.2).bind fun step' _ => ?_
      cases step' with
      | none => exact .pure nofun
      | some _ => exact .throw _
    | some step =>
      refine (ihSecond h.2).bind fun step' given' => ?_
      cases step' with
      | none => exact .throw _
      | some step' =>
        refine .pure fun s e => ?_
        cases e
        obtain ⟨x, first⟩ := given step rfl
        obtain ⟨y, second⟩ := given' step' rfl
        exact ⟨(u.hereditary.axisPair _ _).mpr ⟨x, y⟩, first, second⟩

theorem ensures_advanceWithin (depth : Nat) {kind : CursorKind} {place : Nat}
    (h : u.Held (.cursor kind place)) :
    Ensures u.Kept (Draw.advanceWithin depth place) fun item => ∀ v ∈ item, u.Held v := by
  induction depth generalizing kind place with
  | zero => exact .pure nofun
  | succ depth ih =>
    refine Ensures.get.bind fun cursors kept => ?_
    -- the place is empty while its own source is drawn from
    refine (Ensures.modify fun state kept =>
      u.set state kind place .ended kept h (Source.holds_ended _)).bind fun _ _ => ?_
    refine (ensures_nextWith (fun _ _ => ih) (u.source cursors kind place kept h)).bind
      fun step given => ?_
    cases step with
    | none => exact .pure nofun
    | some step =>
      obtain ⟨item, rest⟩ := given step rfl
      exact (Ensures.modify fun state kept => u.set state kind place _ kept h rest).bind fun _ _ =>
        .pure fun v e => by cases e; exact item

theorem ensures_advance {kind : CursorKind} {place : Nat} (h : u.Held (.cursor kind place)) :
    Ensures u.Kept (Draw.advance place) fun item => ∀ v ∈ item, u.Held v :=
  Ensures.get.bind fun _ _ => ensures_advanceWithin _ h

/-- An item that a source gives is one that the source or a cursor held. -/
theorem ensures_next {source : Source} (h : source.Holds u.Held) :
    Ensures u.Kept (Draw.next source) fun step => ∀ s ∈ step, u.Held s.1 ∧ s.2.Holds u.Held :=
  ensures_nextWith (fun _ _ => ensures_advance) h

/-- Counting what the cursors hold moves none of them. -/
theorem ensures_supply : Ensures u.Kept Draw.supply fun _ => True :=
  Ensures.get.bind fun _ _ => .pure trivial

/-- The two items of a value that has exactly two are ones that the value or a cursor held. -/
theorem ensures_pair? {v : Value} (h : u.Held v) :
    Ensures u.Kept v.pair? fun parts => ∀ p ∈ parts, u.Held p.1 ∧ u.Held p.2 := by
  refine Ensures.tryCatch ?_ fun _ => .pure nofun
  refine (Ensures.lift fun source e => u.hereditary.source h e).bind fun source from' => ?_
  refine (ensures_next from').bind fun step given => ?_
  match step with
  | none => exact .pure nofun
  | some (x, rest) =>
    obtain ⟨x', rest'⟩ := given _ rfl
    refine (ensures_next rest').bind fun step given => ?_
    match step with
    | none => exact .pure nofun
    | some (y, rest) =>
      obtain ⟨y', rest'⟩ := given _ rfl
      refine (ensures_next rest').bind fun step _ => ?_
      match step with
      | none => exact .pure fun p e => by cases e; exact ⟨x', y'⟩
      | some _ => exact .pure nofun

/-! ## Writing -/

theorem ensures_displayedAs {form : Draw String} (h : Ensures u.Kept form fun _ => True)
    (v : Value) : Ensures u.Kept (Value.displayedAs form v) fun _ => True := by
  cases v <;> first | exact h | exact .pure trivial | exact .lift fun _ _ => trivial

/-- Of a pair only the first place is written; the second has a name or has none. -/
theorem ensures_pairInPrint {form : Draw String} (h : Ensures u.Kept form fun _ => True)
    (x t : Value) : Ensures u.Kept (Value.pairInPrint form x t) fun _ => True :=
  (ensures_displayedAs h x).bind fun _ _ => (Ensures.lift fun _ _ => trivial).bind fun _ _ =>
    .pure trivial

mutual

/-- `ensures_write`, for any way to write live views that stays within the upkeep. -/
theorem ensures_writeWith {live : Source → Draw String}
    (lives : ∀ source : Source, source.Holds u.Held → Ensures u.Kept (live source) fun _ => True) :
    ∀ v : Value, u.Held v → Ensures u.Kept (Value.writeWith live v) fun _ => True
  | .list items, h =>
    (ensures_writeItems lives items ((u.hereditary.list _).mp h)).bind fun _ _ => .pure trivial
  | .tuple items, h =>
    (ensures_writeItems lives items ((u.hereditary.tuple _).mp h)).bind fun _ _ => .pure trivial
  | .dict entries, h =>
    (ensures_writeEntries lives entries ((u.hereditary.dict _).mp h)).bind fun _ _ => .pure trivial
  | .axisPair x t, h =>
    have ⟨x', t'⟩ := (u.hereditary.axisPair _ _).mp h
    (ensures_writeWith lives x x').bind fun _ _ => (ensures_writeWith lives t t').bind fun _ _ =>
      .pure trivial
  | .view _ pairs fault _, h => by
    refine (ensures_writePairs lives pairs ((u.hereditary.view _ _ _ _).mp h)).bind fun _ _ => ?_
    cases fault with
    | none => exact .pure trivial
    | some fault => exact .throw fault
  | .liveView label first second, h =>
    (Ensures.lift fun source e => u.hereditary.source h e).bind fun source from' =>
      lives source from'
  | .absent, _ => .pure trivial
  | .bool _, _ => .pure trivial
  | .int _, _ => .lift fun _ _ => trivial
  | .float _, _ => .pure trivial
  | .text _, _ => .pure trivial
  | .bytes _, _ => .pure trivial
  | .shape _, _ => .lift fun _ _ => trivial
  | .index _ _ _, _ => .pure trivial
  | .iterable _ _ _, _ => .pure trivial
  | .mapping _ _ _, _ => .pure trivial
  | .tensor _ _, _ => .pure trivial
  | .featureless _, _ => .pure trivial
  | .cursor _ _, _ => .pure trivial

theorem ensures_writeItems {live : Source → Draw String}
    (lives : ∀ source : Source, source.Holds u.Held → Ensures u.Kept (live source) fun _ => True) :
    ∀ items : List Value, (∀ v ∈ items, u.Held v) →
      Ensures u.Kept (Value.writeItems live items) fun _ => True
  | [], _ => .pure trivial
  | v :: rest, h =>
    have ⟨first, others⟩ := List.forall_mem_cons.mp h
    (ensures_writeWith lives v first).bind fun _ _ =>
      (ensures_writeItems lives rest others).bind fun _ _ => .pure trivial

theorem ensures_writeEntries {live : Source → Draw String}
    (lives : ∀ source : Source, source.Holds u.Held → Ensures u.Kept (live source) fun _ => True) :
    ∀ entries : List (Value × Value), (∀ e ∈ entries, u.Held e.1 ∧ u.Held e.2) →
      Ensures u.Kept (Value.writeEntries live entries) fun _ => True
  | [], _ => .pure trivial
  | (key, value) :: rest, h =>
    have ⟨first, others⟩ := List.forall_mem_cons.mp h
    (ensures_writeWith lives key first.1).bind fun _ _ =>
      (ensures_writeWith lives value first.2).bind fun _ _ =>
        (ensures_writeEntries lives rest others).bind fun _ _ => .pure trivial

theorem ensures_writePairs {live : Source → Draw String}
    (lives : ∀ source : Source, source.Holds u.Held → Ensures u.Kept (live source) fun _ => True) :
    ∀ pairs : List (Value × Value), (∀ p ∈ pairs, u.Held p.1 ∧ u.Held p.2) →
      Ensures u.Kept (Value.writePairs live pairs) fun _ => True
  | [], _ => .pure trivial
  | (x, t) :: rest, h =>
    have ⟨first, others⟩ := List.forall_mem_cons.mp h
    (ensures_pairInPrint (ensures_writeWith lives x first.1) x t).bind fun _ _ =>
      (ensures_writePairs lives rest others).bind fun _ _ => .pure trivial

end

theorem ensures_writeDrawn (bound : Nat) {source : Source} (h : source.Holds u.Held) :
    Ensures u.Kept (Value.writeDrawn bound source) fun _ => True := by
  induction bound generalizing source with
  | zero => exact .pure trivial
  | succ bound ih =>
    refine (ensures_next h).bind fun step given => ?_
    match step with
    | none => exact .pure trivial
    | some (pair, rest) =>
      obtain ⟨pair', rest'⟩ := given _ rfl
      have written : Ensures u.Kept (Value.writeDrawn.writeDrawnPair
          (fun inner => viewInPrint <$> Value.writeDrawn bound inner) pair) fun _ => True := by
        -- a live view inside the pair is written within the bound that is left
        unfold Value.writeDrawn.writeDrawnPair
        split
        · exact ensures_pairInPrint (ensures_writeWith (fun _ h => (ih h).map fun _ _ => trivial) _
            ((u.hereditary.axisPair _ _).mp pair').1) _ _
        · exact .throw _
      exact written.bind fun _ _ => (ih rest').bind fun _ _ => .pure trivial

/-- Writing a value moves no cursors but those that the value leads to. -/
theorem ensures_write {v : Value} (h : u.Held v) : Ensures u.Kept v.write fun _ => True :=
  ensures_supply.bind fun _ _ =>
    ensures_writeWith (fun _ h => (ensures_writeDrawn _ h).map fun _ _ => trivial) v h

theorem ensures_display {v : Value} (h : u.Held v) : Ensures u.Kept v.display fun _ => True :=
  ensures_displayedAs (ensures_write h) v

/-! ## Computations that may fail -/

variable (u) in
/-- The work keeps the cursors up, gives what has `Q`, and fails in no way that is ruled out. -/
def Maintains (work : Eval α) (Q : α → Prop) : Prop :=
  ∀ run : Run, u.Kept run.cursors → u.Kept (work run).2.cursors ∧
    (∀ a, (work run).1 = .ok a → Q a) ∧
    ∀ failure, (work run).1 = .error failure → u.Fails failure

namespace Maintains

variable {work : Eval α} {Q R : α → Prop} {S : β → Prop}

theorem pure {a : α} (h : Q a) : u.Maintains (Pure.pure a) Q :=
  fun _ kept => ⟨kept, fun _ e => by cases e; exact h, nofun⟩

theorem fail {failure : Failure} (h : u.Fails failure) :
    u.Maintains (throw failure : Eval α) Q :=
  fun _ kept => ⟨kept, nofun, fun _ e => by cases e; exact h⟩

/-- No failure is ruled out but that for an unfit part. -/
theorem throw {failure : Failure} (h : ∀ part, failure ≠ .unfit part) :
    u.Maintains (throw failure : Eval α) Q := fail (u.fails failure h)

theorem mono (h : u.Maintains work Q) (weaker : ∀ a, Q a → R a) : u.Maintains work R :=
  fun run kept =>
    have ⟨after, given, failed⟩ := h run kept
    ⟨after, fun a e => weaker a (given a e), failed⟩

theorem modify {f : Run → Run} (h : ∀ run, (f run).cursors = run.cursors) :
    u.Maintains (modify f : Eval PUnit) fun _ => True := by
  intro run kept
  refine ⟨?_, fun _ _ => trivial, nofun⟩
  show u.Kept (f run).cursors
  rwa [h]

/-- What the first step gives is handed to the second. -/
theorem bind {next : α → Eval β} (first : u.Maintains work Q)
    (second : ∀ a, Q a → u.Maintains (next a) S) : u.Maintains (work >>= next) S := by
  intro run kept
  obtain ⟨kept, given, failed⟩ := first run kept
  rw [bind_apply]
  match e : work run with
  | (.ok a, between) => rw [e] at kept given; exact second a (given a rfl) between kept
  | (.error failure, between) =>
    rw [e] at kept failed
    exact ⟨kept, nofun, fun _ e => by cases e; exact failed failure rfl⟩

theorem tryCatch {handler : Failure → Eval α} (h : u.Maintains work Q)
    (handled : ∀ failure, u.Fails failure → u.Maintains (handler failure) Q) :
    u.Maintains (tryCatch work handler) Q := by
  intro run kept
  obtain ⟨kept, given, failed⟩ := h run kept
  rw [tryCatch_apply]
  match e : work run with
  | (.ok a, between) => rw [e] at kept given; exact ⟨kept, given, nofun⟩
  | (.error failure, between) =>
    rw [e] at kept failed
    exact handled failure (failed failure rfl) between kept

end Maintains

variable {Q : α → Prop}

theorem maintains_ofFault {result : Except Fault α} (h : ∀ a, result = .ok a → Q a) :
    u.Maintains (.ofFault result) Q := by
  match result with
  | .ok a => exact .pure (h a rfl)
  | .error _ => exact .throw nofun

theorem maintains_ofExcept {result : Except Failure α} (h : ∀ a, result = .ok a → Q a)
    (failed : ∀ failure, result = .error failure → ∀ part, failure ≠ .unfit part) :
    u.Maintains (.ofExcept result) Q := by
  match result with
  | .ok a => exact .pure (h a rfl)
  | .error failure => exact .throw (failed failure rfl)

theorem maintains_ofCallback {answer : Except String α} (h : ∀ a, answer = .ok a → Q a) :
    u.Maintains (.ofCallback answer) Q := by
  match answer with
  | .ok a => exact .pure (h a rfl)
  | .error _ => exact .throw nofun

theorem maintains_noteCall (axis : Axis) : u.Maintains (.noteCall axis) fun _ => True :=
  .modify fun _ => rfl

/-- What drawing keeps up an operation keeps up that does nothing else, and no fault is an unfit
part. -/
theorem maintains_ofDraw {work : Draw α} (h : Ensures u.Kept work Q) :
    u.Maintains (.ofDraw work) Q := by
  intro run kept
  obtain ⟨kept, given⟩ := h run.cursors kept
  rw [Eval.ofDraw_apply]
  refine ⟨kept, fun a e => ?_, fun failure e => ?_⟩
  · match result : (work run.cursors).1 with
    | .ok _ => rw [result] at e; cases e; exact given a result
    | .error _ => rw [result] at e; cases e
  · match result : (work run.cursors).1 with
    | .ok _ => rw [result] at e; cases e
    | .error _ => rw [result] at e; cases e; exact u.fails _ nofun

/-- A report keeps what composing it keeps. -/
theorem maintains_report (channel : Channel) {compose : Draw String}
    (h : Ensures u.Kept compose fun _ => True) :
    u.Maintains (.report channel compose) fun _ => True := by
  have kept : u.Maintains (do Eval.record channel (← .ofDraw compose) : Eval Unit) fun _ => True :=
    (maintains_ofDraw h).bind fun _ _ => .modify fun _ => rfl
  intro run given
  match mode : run.logging with
  | .off =>
    rw [Eval.report_of_off mode]
    exact ⟨given, fun _ _ => trivial, nofun⟩
  | .lenient =>
    rw [Eval.report_of_lenient mode]
    exact kept.tryCatch (fun _ _ => .pure trivial) run given
  | .strict =>
    rw [Eval.report_of_strict mode]
    exact kept run given

/-- A cursor that is opened may be mentioned from then on. -/
theorem maintains_newCursor (opens : u.Opens) (kind : CursorKind) {source : Source}
    (h : source.Holds u.Held) : u.Maintains (.newCursor kind source) u.Held := by
  intro run kept
  obtain ⟨kept, mentioned⟩ := opens run.cursors kind source kept h
  exact ⟨kept, fun v e => by cases e; exact mentioned, nofun⟩

/-! ## Going through items -/

/-- Going through a list gives what has a property if each step does. -/
theorem maintains_traverse {S : β → Prop} {f : Nat → α → Eval β} {l : List α}
    (h : ∀ position, ∀ a ∈ l, u.Maintains (f position a) S) (position : Nat) :
    u.Maintains (Eval.traverse f position l) fun bs => ∀ b ∈ bs, S b := by
  induction l generalizing position with
  | nil => exact .pure nofun
  | cons a rest ih =>
    obtain ⟨first, others⟩ := forall_and.mp fun position => List.forall_mem_cons.mp (h position)
    refine (first position).bind fun b q => ?_
    refine (ih others (position + 1)).bind fun bs qs => .pure ?_
    exact List.forall_mem_cons.mpr ⟨q, qs⟩

variable {S : β → Prop} {f : Nat → Value → Eval β}

/-- Going through a source gives what has a property if each step does, whatever the steps
themselves draw. -/
theorem maintains_drain (h : ∀ position v, u.Held v → u.Maintains (f position v) S)
    (bound position : Nat) {source : Source} (from' : source.Holds u.Held) :
    u.Maintains (Eval.drain f bound position source) fun bs => ∀ b ∈ bs, S b := by
  induction bound generalizing position source with
  | zero => exact .pure nofun
  | succ bound ih =>
    refine (maintains_ofDraw (ensures_next from')).bind fun step given => ?_
    match step with
    | none => exact .pure nofun
    | some (item, rest) =>
      -- `f` may move cursors too, so what is drawn next comes from the state that it leaves
      obtain ⟨item', rest'⟩ := given _ rfl
      refine (h position item item').bind fun b q => ?_
      refine (ih (position + 1) rest').bind fun bs qs => .pure ?_
      exact List.forall_mem_cons.mpr ⟨q, qs⟩

theorem maintains_finish (fault : Option Fault) :
    u.Maintains (.finish fault) fun _ => True := by
  cases fault with
  | none => exact .pure trivial
  | some _ => exact .throw nofun

/-- What is done with the items of a value is done with what the value or a cursor held. -/
theorem maintains_eachItem (h : ∀ position v, u.Held v → u.Maintains (f position v) S) {v : Value}
    (from' : u.Held v) : u.Maintains (Eval.eachItem f v) fun bs => ∀ b ∈ bs, S b := by
  unfold Eval.eachItem
  split
  · rename_i pass holds
    refine (maintains_traverse (fun position item held => h position item ?_) 0).bind
      fun bs qs => ?_
    · exact u.hereditary.pass from' holds item held
    · exact (maintains_finish _).bind fun _ _ => .pure qs
  · refine (maintains_ofFault fun source e => u.hereditary.source from' e).bind
      fun source from' => ?_
    exact (maintains_ofDraw ensures_supply).bind fun _ _ => maintains_drain h _ _ from'

theorem maintains_items {v : Value} (h : u.Held v) :
    u.Maintains (Eval.items v) fun items => ∀ item ∈ items, u.Held item :=
  maintains_eachItem (fun _ _ h => .pure h) h

end Upkeep
end TensorShape
