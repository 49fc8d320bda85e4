import TensorShape.Proofs.Couplings
import TensorShape.Proofs.Drawing
import TensorShape.Proofs.Operations
import TensorShape.Proofs.Provenance

/-! # How far writing goes

Pairs that are drawn are written up to a bound, along a view and from a view into one that it
holds.  The bound is never reached (`Value.write_eq_of_total_lt`): a view is live only if one of
the two values that it pairs has to be drawn from, so every live view draws from a cursor.  Each
pair that it gives therefore takes an item out of the cursors (`Draw.total_next`), and what is left
there is all that the views inside the pair, and the pairs after it, can draw from.

That live views draw from cursors is so of every view that is made
(`Value.granted_drawsFromCursors`), so it is kept up from the beginning of a session on
(`Session.lively_fresh`, `Session.lively_perform`). -/
namespace TensorShape

open Draw (total)

variable {source : Source} {cursors : List Source} {most : Nat}

/-! ## Views that draw from cursors -/

namespace Value

/-- A live view that can be gone through draws from a cursor. -/
def DrawsFromCursors : Value → Prop
  | v@(liveView _ _ _) => ∀ source, v.source = .ok source → source.isLive = true
  | _ => True

/-- What can be gone through and holds no items has to be drawn from. -/
theorem isLive_of_source {v : Value} (h : v.All DrawsFromCursors) (iterable : v.isIterable = true)
    (none : v.pass? = none) (e : v.source = .ok source) : source.isLive = true := by
  cases v with
  | cursor kind place => cases e; rfl
  | liveView label first second => exact h.1 source e
  | absent | bool | int | float | index | tensor | featureless => cases iterable
  | _ => cases none

theorem granted_drawsFromCursors : Granted DrawsFromCursors where
  int _ := trivial
  bool _ := trivial
  text _ := trivial
  cursor _ _ := trivial
  relabelled _ _ _ _ h := h
  paired first second iterable iterable' drawn h h' := by
    intro source e
    cases a : first.source with
    | error fault => rw [Value.source, a] at e; cases e
    | ok source =>
      cases b : second.source with
      | error fault => rw [Value.source, a, b] at e; cases e
      | ok source' =>
        rw [Value.source, a, b] at e
        cases e
        rw [Source.isLive, Bool.or_eq_true]
        exact drawn.imp (isLive_of_source h iterable · a) (isLive_of_source h' iterable' · b)

end Value

/-- Live views draw from cursors, at any depth. -/
def Upkeep.lively : Upkeep := all Value.granted_drawsFromCursors fun _ _ => trivial

theorem Upkeep.opens_lively : Upkeep.lively.Opens := opens_all _ _

theorem Session.lively_fresh (logging : Logging) : (Session.fresh logging).Within .lively :=
  ⟨fun _ held => absurd held List.not_mem_nil, fun _ held => absurd held List.not_mem_nil⟩

/-- **No operation brings a live view about that draws from no cursor.** -/
theorem Session.lively_perform {session : Session} (held : session.Within .lively)
    {operation : Operation} (mentioned : operation.Holds Upkeep.lively.Held)
    (keepAs : Option String) : (session.perform operation keepAs).2.Within .lively :=
  (held.perform (Operation.maintains_run mentioned (fun _ _ => Upkeep.opens_lively)
    fun _ _ _ _ => trivial) keepAs).2

/-! ## Written twice -/

namespace Draw

/-- The same cursors twice, which hold at most so many items. -/
structure Twice (most : Nat) (cursors cursors' : List Source) : Prop where
  same : cursors' = cursors
  kept : Upkeep.lively.Kept cursors
  few : total cursors ≤ most

theorem Twice.mono {fewer : Nat} {cursors' : List Source} (h : Twice fewer cursors cursors')
    (le : fewer ≤ most) : Twice most cursors cursors' := ⟨h.same, h.kept, Nat.le_trans h.few le⟩

/-- From cursors that hold at most so many items, two ways to write do the same. -/
abbrev Agree (most : Nat) (work work' : Draw α) : Prop :=
  TensorShape.Coupled (Twice most) Eq Eq work work'

theorem agree_lift (result : Except Fault α) :
    Agree most (liftM result : Draw α) (liftM result) := by
  cases result with
  | ok a => exact .pure rfl
  | error fault => exact .throw rfl

end Draw

namespace Value

open Draw (Agree agree_lift)

theorem agree_displayedAs {form form' : Draw String} (h : Agree most form form') (v : Value) :
    Agree most (displayedAs form v) (displayedAs form' v) := by
  cases v with
  | text t => exact .pure rfl
  | shape s => exact agree_lift _
  | _ => exact h

/-- A name is written in no other way the second time. -/
theorem agree_pairInPrint {form form' : Draw String} (h : Agree most form form') (x t : Value) :
    Agree most (pairInPrint form x t) (pairInPrint form' x t) := by
  refine (agree_displayedAs h x).bind ?_
  rintro shown _ rfl
  refine (agree_lift _).bind ?_
  rintro name _ rfl
  exact .pure rfl

/-- Two ways to write live views that draw from cursors do the same. -/
def AgreeLive (most : Nat) (live live' : Source → Draw String) : Prop :=
  ∀ source : Source, source.Holds Upkeep.lively.Held → source.isLive = true →
    Agree most (live source) (live' source)

mutual

/-- What a value holds itself is written the same, so all hangs on its live views. -/
theorem agree_writeWith {live live' : Source → Draw String} (lives : AgreeLive most live live') :
    ∀ v : Value, Upkeep.lively.Held v → Agree most (writeWith live v) (writeWith live' v)
  | .list items, h => by
    refine (agree_writeItems lives items ((Upkeep.lively.hereditary.list _).mp h)).bind ?_
    rintro forms _ rfl
    exact .pure rfl
  | .tuple items, h => by
    refine (agree_writeItems lives items ((Upkeep.lively.hereditary.tuple _).mp h)).bind ?_
    rintro forms _ rfl
    exact .pure rfl
  | .dict entries, h => by
    refine (agree_writeEntries lives entries ((Upkeep.lively.hereditary.dict _).mp h)).bind ?_
    rintro forms _ rfl
    exact .pure rfl
  | .axisPair x t, h => by
    obtain ⟨x', t'⟩ := (Upkeep.lively.hereditary.axisPair _ _).mp h
    refine (agree_writeWith lives x x').bind ?_
    rintro form _ rfl
    refine (agree_writeWith lives t t').bind ?_
    rintro form' _ rfl
    exact .pure rfl
  | .view _ pairs fault _, h => by
    refine (agree_writePairs lives pairs ((Upkeep.lively.hereditary.view _ _ _ _).mp h)).bind ?_
    rintro forms _ rfl
    cases fault with
    | none => exact .pure rfl
    | some fault => exact .throw rfl
  | .liveView label first second, h => by
    cases e : (liveView label first second).source with
    | error fault =>
      rw [writeWith, writeWith, e]
      exact .throw rfl
    | ok source =>
      rw [writeWith, writeWith, e]
      exact lives source (Upkeep.lively.hereditary.source h e) (h.1 source e)
  | .int _, _ => agree_lift _
  | .shape _, _ => agree_lift _
  | .absent, _ => .pure rfl
  | .bool _, _ => .pure rfl
  | .float _, _ => .pure rfl
  | .text _, _ => .pure rfl
  | .bytes _, _ => .pure rfl
  | .index _ _ _, _ => .pure rfl
  | .iterable _ _ _, _ => .pure rfl
  | .mapping _ _ _, _ => .pure rfl
  | .tensor _ _, _ => .pure rfl
  | .featureless _, _ => .pure rfl
  | .cursor _ _, _ => .pure rfl

theorem agree_writeItems {live live' : Source → Draw String} (lives : AgreeLive most live live') :
    ∀ items : List Value, (∀ v ∈ items, Upkeep.lively.Held v) →
      Agree most (writeItems live items) (writeItems live' items)
  | [], _ => .pure rfl
  | v :: rest, h => by
    obtain ⟨first, others⟩ := List.forall_mem_cons.mp h
    refine (agree_writeWith lives v first).bind ?_
    rintro form _ rfl
    refine (agree_writeItems lives rest others).bind ?_
    rintro forms _ rfl
    exact .pure rfl

theorem agree_writeEntries {live live' : Source → Draw String}
    (lives : AgreeLive most live live') :
    ∀ entries : List (Value × Value),
      (∀ e ∈ entries, Upkeep.lively.Held e.1 ∧ Upkeep.lively.Held e.2) →
      Agree most (writeEntries live entries) (writeEntries live' entries)
  | [], _ => .pure rfl
  | (key, value) :: rest, h => by
    obtain ⟨first, others⟩ := List.forall_mem_cons.mp h
    refine (agree_writeWith lives key first.1).bind ?_
    rintro form _ rfl
    refine (agree_writeWith lives value first.2).bind ?_
    rintro form' _ rfl
    refine (agree_writeEntries lives rest others).bind ?_
    rintro forms _ rfl
    exact .pure rfl

theorem agree_writePairs {live live' : Source → Draw String} (lives : AgreeLive most live live') :
    ∀ pairs : List (Value × Value),
      (∀ p ∈ pairs, Upkeep.lively.Held p.1 ∧ Upkeep.lively.Held p.2) →
      Agree most (writePairs live pairs) (writePairs live' pairs)
  | [], _ => .pure rfl
  | (x, t) :: rest, h => by
    obtain ⟨first, others⟩ := List.forall_mem_cons.mp h
    refine (agree_pairInPrint (agree_writeWith lives x first.1) x t).bind ?_
    rintro form _ rfl
    refine (agree_writePairs lives rest others).bind ?_
    rintro forms _ rfl
    exact .pure rfl

end

/-! ## Bounds that are not reached -/

/-- Beyond the number of items in the cursors one bound is as good as another. -/
theorem agree_writeDrawn {bound bound' : Nat} (enough : most < bound) (enough' : most < bound')
    (held : source.Holds Upkeep.lively.Held) (live : source.isLive = true) :
    Agree most (writeDrawn bound source) (writeDrawn bound' source) := by
  induction bound generalizing most bound' source with
  | zero => exact absurd enough (Nat.not_lt_zero most)
  | succ bound ih =>
    obtain ⟨bound', rfl⟩ := Nat.exists_eq_succ_of_ne_zero (Nat.ne_zero_of_lt enough')
    rintro _ cursors ⟨rfl, kept, few⟩
    obtain ⟨kept, given⟩ := Upkeep.ensures_next held cursors kept
    have spared := (Draw.spares_next source).total_le cursors
    rw [writeDrawn, writeDrawn, bind_apply, bind_apply]
    match drawn : Draw.next source cursors with
    | (.error fault, after) =>
      rw [drawn] at kept spared
      exact ⟨⟨rfl, kept, Nat.le_trans spared few⟩, .error rfl⟩
    | (.ok none, after) =>
      rw [drawn] at kept spared
      exact ⟨⟨rfl, kept, Nat.le_trans spared few⟩, .ok rfl⟩
    | (.ok (some (pair, rest)), after) =>
      rw [drawn] at kept given
      obtain ⟨pair', rest'⟩ := given _ rfl _ rfl
      obtain ⟨live, less⟩ := Draw.total_next live drawn
      -- an item is gone, so the bounds that are left are still beyond those that are there
      have enough : total after < bound := by omega
      have enough' : total after < bound' := by omega
      have lives : AgreeLive (total after) (fun inner => viewInPrint <$> writeDrawn bound inner)
          fun inner => viewInPrint <$> writeDrawn bound' inner :=
        fun inner held live => (ih enough enough' held live).map fun _ _ => congrArg viewInPrint
      have written : Agree (total after)
          (writeDrawn.writeDrawnPair (fun inner => viewInPrint <$> writeDrawn bound inner) pair)
          (writeDrawn.writeDrawnPair (fun inner => viewInPrint <$> writeDrawn bound' inner)
            pair) := by
        cases pair with
        | axisPair x t => exact agree_pairInPrint (agree_writeWith lives x pair'.1) x t
        | _ => exact .throw rfl
      have whole := written.bind fun form form' same =>
        (ih enough enough' rest' live).bind fun forms forms' same' =>
          Coupled.pure (congrArg₂ List.cons same same')
      obtain ⟨states, results⟩ := whole after after ⟨rfl, kept, Nat.le_refl _⟩
      exact ⟨states.mono (by omega), results⟩

/-- **Writing is never cut off**: any bound beyond the number of items in the cursors does as well
as that which is taken. -/
theorem write_eq_of_total_lt {v : Value} {bound : Nat} (held : Upkeep.lively.Held v)
    (kept : Upkeep.lively.Kept cursors) (enough : total cursors < bound) :
    v.write cursors
      = writeWith (fun source => viewInPrint <$> writeDrawn bound source) v cursors := by
  have lives : AgreeLive (total cursors)
      (fun source => viewInPrint <$> writeDrawn (total cursors + 1) source)
      fun source => viewInPrint <$> writeDrawn bound source := fun source held live =>
    (agree_writeDrawn (Nat.lt_succ_self _) enough held live).map fun _ _ => congrArg viewInPrint
  obtain ⟨states, results⟩ :=
    agree_writeWith lives v held cursors cursors ⟨rfl, kept, Nat.le_refl _⟩
  rw [write, bind_of_ok (Draw.supply_run cursors)]
  exact Prod.ext results.eq states.same.symm

end Value
end TensorShape
