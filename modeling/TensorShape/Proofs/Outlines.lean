import TensorShape.Proofs.Couplings
import TensorShape.Proofs.Drawing
import TensorShape.Proofs.Provenance

/-! # Outlines

What stands for an integer is to do as well as the integer.  To say so a value is compared with its
outline, in which every integer is a plain one.  In a coarse outline all that is left of a number is
that one stands there, a truth value or not.

Taking a value apart and taking the outline come to the same in either order (`pass?_outline`,
`corresponding_source`), so drawing from a value is coupled with drawing from its outline, and a
pass over the items of a value with one over the items of its outline (`coupled_eachItem`).  Only
what is in print differs between the two sides, so of a form no more is said than that it is found
on both sides or on neither.

For that the integer that something stands for must not be too long to be printed: in print a plain
one would be a fault, and what stands for it would not.  `Upkeep.printed` is what this comes to for
everything that a value holds and that cursors have still to give. -/
namespace TensorShape

open List (Forall₂)

/-! ## The outline of a value -/

/-- How finely numbers are told apart. -/
inductive Grain where
  /-- By which integer or truth value they are, but not by what they are handed over as. -/
  | fine
  /-- By no more than whether they can be printed. -/
  | coarse

namespace Grain

/-- What is left of an integer. -/
def whole : Grain → Int → Int
  | fine, n => n
  | coarse, n => if Decimal.fits n then 0 else n

/-- What is left of an octet. -/
def octet : Grain → UInt8 → UInt8
  | fine, o => o
  | coarse, _ => 0

/-- What is left of a truth value. -/
def truth : Grain → Bool → Value
  | fine, b => .bool b
  | coarse, _ => .int 0

variable (g : Grain)

/-- An integer can be printed just if what is left of it can. -/
@[simp] theorem fits_whole (n : Int) : Decimal.fits (g.whole n) = Decimal.fits n := by
  cases g with
  | fine => rfl
  | coarse =>
    rw [whole]
    split
    case isTrue fit => exact fit.symm
    case isFalse => rfl

theorem fit_map_whole {integers : List Int} :
    Decimal.Fit (integers.map g.whole) ↔ Decimal.Fit integers := by
  simp [Decimal.Fit]

theorem toNat_octet (o : UInt8) : ((g.octet o).toNat : Int) = g.whole o.toNat := by
  cases g with
  | fine => rfl
  | coarse =>
    have fit : Decimal.fits o.toNat = true := Decimal.fits_of_lt (k := 3) (by decide)
      (Nat.lt_trans o.toNat_lt (by decide))
    rw [whole, if_pos fit]
    rfl

end Grain

/-- The outline of a fault, which does not say what kind of thing the value is. -/
def Fault.outline : Fault → Fault
  | notIterable _ => notIterable ""
  | noLength _ => noLength ""
  | noFeature _ feature => noFeature "" feature
  | notComparable _ => notComparable ""
  | secondShorter => secondShorter
  | secondLonger => secondLonger
  | tooManyDigits => tooManyDigits

@[simp] theorem Fault.outline_outline (fault : Fault) : fault.outline.outline = fault.outline := by
  cases fault <;> rfl

namespace Value

mutual

/-- The outline of a value. -/
def outline (g : Grain) : Value → Value
  | absent => absent
  | bool b => g.truth b
  | int n => int (g.whole n)
  | float decimal => float decimal
  | text t => text t
  | list items => list (outlineItems g items)
  | tuple items => tuple (outlineItems g items)
  | dict entries => dict (outlinePairs g entries)
  | bytes octets => bytes (octets.map g.octet)
  | shape s => shape ⟨s.dimensions.map g.whole, s.layout⟩
  | axisPair x t => axisPair (outline g x) (outline g t)
  | index _ _ n => int (g.whole n)
  | iterable object access items => iterable object access (outlineItems g items)
  | mapping object cursors entries => mapping object cursors (outlinePairs g entries)
  | tensor object v => tensor object (outline g v)
  | featureless object => featureless object
  | view label pairs fault length =>
    view label (outlinePairs g pairs) (fault.map Fault.outline) (length.mapError Fault.outline)
  | liveView label first second => liveView label (outline g first) (outline g second)
  | cursor kind place => cursor kind place

/-- The outlines of some values, in order. -/
def outlineItems (g : Grain) : List Value → List Value
  | [] => []
  | item :: rest => outline g item :: outlineItems g rest

/-- The outlines of keys and their values, in order. -/
def outlinePairs (g : Grain) : List (Value × Value) → List (Value × Value)
  | [] => []
  | (x, t) :: rest => (outline g x, outline g t) :: outlinePairs g rest

end

variable (g : Grain)

@[simp] theorem outlineItems_eq (items : List Value) :
    outlineItems g items = items.map (outline g) := by
  induction items with
  | nil => rfl
  | cons item rest ih => rw [outlineItems, ih, List.map_cons]

@[simp] theorem outlinePairs_eq (pairs : List (Value × Value)) :
    outlinePairs g pairs = pairs.map (Prod.map (outline g) (outline g)) := by
  induction pairs with
  | nil => rfl
  | cons pair rest ih => rw [outlinePairs, ih, List.map_cons, Prod.map_apply]

/-- A value stands for no integer that is too long to be printed. -/
def Printed : Value → Prop
  | index _ _ n => Decimal.fits n = true
  | _ => True

theorem granted_printed : Granted Printed where
  int _ := trivial
  bool _ := trivial
  text _ := trivial
  cursor _ _ := trivial
  relabelled _ _ _ _ _ := trivial
  paired _ _ _ _ _ _ _ := trivial

end Value

/-- Nothing stands for an integer that is too long to be printed, at any depth. -/
def Upkeep.printed : Upkeep := all Value.granted_printed fun _ _ => trivial

/-- The outline of a pass. -/
def Pass.outline (g : Grain) (pass : Pass) : Pass :=
  ⟨pass.items.map (Value.outline g), pass.fault.map Fault.outline⟩

/-- The outline of a source. -/
def Source.outline (g : Grain) : Source → Source
  | own pass => own (pass.outline g)
  | shared place => shared place
  | zip first second => zip (first.outline g) (second.outline g)

/-- Cursors that draw from sources with the same outlines, in which nothing stands for an integer
that is too long to be printed, and the same use of records. -/
structure Run.SameOutline (g : Grain) (run run' : Run) : Prop where
  logging : run.logging = run'.logging
  cursors : run.cursors.map (Source.outline g) = run'.cursors.map (Source.outline g)
  printed : Upkeep.printed.Kept run.cursors
  printed' : Upkeep.printed.Kept run'.cursors

variable (g : Grain)

theorem Value.pass?_outline (v : Value) :
    (v.outline g).pass? = v.pass?.map (Pass.outline g) := by
  cases v with
  | bool b => cases g <;> rfl
  | text t =>
    simp only [outline, pass?, Option.map_some, Pass.outline, Pass.ofList, List.map_map]
    rfl
  | dict entries | mapping object cursors entries =>
    simp [outline, pass?, Pass.outline, Pass.ofList, Function.comp_def]
  | bytes octets =>
    simp [outline, pass?, Pass.outline, Pass.ofList, Function.comp_def, g.toNat_octet]
  | shape s =>
    simp [outline, pass?, Pass.outline, Pass.ofList, Function.comp_def, dimensions]
  | view label pairs fault length =>
    simp [outline, pass?, Pass.outline, Function.comp_def]
  | _ => simp [outline, pass?, Pass.outline, Pass.ofList]

@[simp] theorem Value.isIterable_outline (v : Value) : (v.outline g).isIterable = v.isIterable := by
  cases v with
  | cursor | liveView => simp [outline, isIterable]
  | bool b => cases g <;> rfl
  | _ => simp [outline, isIterable, pass?]

@[simp] theorem Source.held_outline (source : Source) : (source.outline g).held = source.held := by
  induction source with
  | own pass => exact List.length_map _
  | shared place => rfl
  | zip first second ihFirst ihSecond => rw [outline, held, held, ihFirst, ihSecond]

/-! ## Drawing -/

variable {α β : Type}

/-- The second fault has the outline of the first. -/
def Fault.Alike (fault fault' : Fault) : Prop := fault'.outline = fault.outline

/-- The second computation does with outlines what the first one does with what they are outlines
of. -/
abbrev Draw.Copies (R : α → β → Prop) (work : Draw α) (work' : Draw β) : Prop :=
  Coupled (fun cursors cursors' => cursors' = cursors.map (Source.outline g)) Fault.Alike R
    work work'

/-- The same as long as nothing stands for an integer that is too long to be printed. -/
abbrev Draw.Coupled (R : α → β → Prop) (work : Draw α) (work' : Draw β) : Prop :=
  TensorShape.Coupled (fun cursors cursors' => cursors' = cursors.map (Source.outline g) ∧
    Upkeep.printed.Kept cursors) Fault.Alike R work work'

/-- The outline of what is drawn: an item, and the source of the items after it. -/
def Draw.outlineStep (g : Grain) : Value × Source → Value × Source :=
  Prod.map (Value.outline g) (Source.outline g)

variable {g}

namespace Draw

open TensorShape (Coupled)

theorem copies_nextWith {advance : Nat → Draw (Option Value)}
    (advances : ∀ place, Draw.Copies g (fun item item' => item' = item.map (Value.outline g))
      (advance place) (advance place)) (source : Source) :
    Draw.Copies g (fun step step' => step' = step.map (outlineStep g))
      (source.nextWith advance) ((source.outline g).nextWith advance) := by
  induction source with
  | own pass =>
    obtain ⟨items, fault⟩ := pass
    match items, fault with
    | [], none => exact .pure rfl
    | [], some fault => exact .throw fault.outline_outline
    | item :: rest, fault => exact .pure rfl
  | shared place =>
    refine (advances place).bind fun item item' same => .pure ?_
    subst same
    cases item <;> rfl
  | zip first second ihFirst ihSecond =>
    refine ihFirst.bind fun step step' same => ?_
    subst same
    -- the second source is drawn from whether or not the first has given an item
    cases step with
    | none =>
      refine ihSecond.bind fun step step' same => ?_
      subst same
      cases step with
      | none => exact .pure rfl
      | some _ => exact .throw rfl
    | some step =>
      refine ihSecond.bind fun step step' same => ?_
      subst same
      cases step with
      | none => exact .throw rfl
      | some step => exact .pure rfl

/-- Emptying a place while its source is drawn from comes to the same on both sides. -/
theorem copies_advanceWithin (depth place : Nat) :
    Draw.Copies g (fun item item' => item' = item.map (Value.outline g))
      (advanceWithin depth place) (advanceWithin depth place) := by
  induction depth generalizing place with
  | zero => exact .pure rfl
  | succ depth ih =>
    refine Coupled.get.bind fun cursors cursors' same => ?_
    subst same
    refine (Coupled.modify fun _ _ same => ?_).bind fun _ _ _ => ?_
    · rw [same, List.map_set]
      rfl
    have source : (cursors.map (Source.outline g)).getD place .ended
        = (cursors.getD place .ended).outline g := by
      rw [List.getD_eq_getElem?_getD, List.getElem?_map, List.getD_eq_getElem?_getD]
      cases cursors[place]? <;> rfl
    rw [source]
    refine (copies_nextWith ih _).bind fun step step' same => ?_
    subst same
    cases step with
    | none => exact .pure rfl
    | some step =>
      refine (Coupled.modify fun _ _ same => ?_).bind fun _ _ _ => .pure rfl
      rw [same, List.map_set]

theorem copies_advance (place : Nat) :
    Draw.Copies g (fun item item' => item' = item.map (Value.outline g))
      (advance place) (advance place) := by
  refine Coupled.get.bind fun cursors cursors' same => ?_
  rw [same, List.length_map]
  exact copies_advanceWithin _ place

/-- Drawing from the outline of a source gives outlines. -/
theorem coupled_next {source : Source} (h : source.Holds Upkeep.printed.Held) :
    Draw.Coupled g (fun step step' => step' = step.map (outlineStep g) ∧
        ∀ s ∈ step, Upkeep.printed.Held s.1 ∧ s.2.Holds Upkeep.printed.Held)
      (next source) (next (source.outline g)) :=
  Coupled.ensuring (copies_nextWith copies_advance source) (Upkeep.ensures_next h)

theorem coupled_supply : Draw.Coupled g Eq supply supply := by
  refine Coupled.get.bind fun cursors cursors' same => .pure ?_
  rw [same.1, List.map_map]
  congr 2
  funext source
  exact (source.held_outline g).symm

end Draw

namespace Value

open TensorShape (Coupled)

variable {v : Value}

theorem corresponding_source_of_pass {pass : Pass} (held : v.pass? = some pass) :
    Corresponding Fault.Alike (fun source source' => source' = source.outline g) v.source
      (v.outline g).source := by
  have held' : (v.outline g).pass? = some (pass.outline g) := by
    rw [pass?_outline, held, Option.map_some]
  rw [Eval.source_of_pass held, Eval.source_of_pass held']
  exact .ok rfl

theorem corresponding_source_of_not_iterable (none : v.isIterable = false) :
    Corresponding Fault.Alike (fun source source' => source' = source.outline g) v.source
      (v.outline g).source := by
  have none' : (v.outline g).isIterable = false := by rwa [isIterable_outline]
  rw [Eval.source_of_not_iterable none, Eval.source_of_not_iterable none']
  exact .error rfl

/-- The outline of a value gives outlines. -/
theorem corresponding_source (v : Value) :
    Corresponding Fault.Alike (fun source source' => source' = source.outline g) v.source
      (v.outline g).source := by
  cases v with
  | cursor kind place => exact .ok rfl
  | liveView label first second =>
    refine (corresponding_source first).bind fun first first' same => ?_
    subst same
    refine (corresponding_source second).bind fun second second' same => ?_
    subst same
    exact .ok rfl
  | text | list | tuple | dict | bytes | shape | axisPair | iterable | mapping | view =>
    exact corresponding_source_of_pass rfl
  | _ => exact corresponding_source_of_not_iterable rfl

/-- The outline of a value gives outlines, of items that can be printed if the value can. -/
theorem coupled_source (h : Upkeep.printed.Held v) : Draw.Coupled g
    (fun source source' => source' = source.outline g ∧ source.Holds Upkeep.printed.Held)
    (liftM v.source) (liftM (v.outline g).source) :=
  .lift (v.corresponding_source.ensuring fun _ given => Upkeep.printed.hereditary.source h given)

/-- A value is a pair just if its outline is. -/
theorem coupled_pair? (h : Upkeep.printed.Held v) : Draw.Coupled g
    (fun parts parts' => parts' = parts.map (Prod.map (outline g) (outline g)) ∧
      ∀ p ∈ parts, Upkeep.printed.Held p.1 ∧ Upkeep.printed.Held p.2)
    v.pair? (v.outline g).pair? := by
  refine Coupled.tryCatch ?_ fun _ _ _ => .pure ⟨rfl, nofun⟩
  refine (coupled_source h).bind ?_
  rintro source _ ⟨rfl, held⟩
  refine (Draw.coupled_next held).bind ?_
  rintro step _ ⟨rfl, held⟩
  match step with
  | none => exact .pure ⟨rfl, nofun⟩
  | some (x, rest) =>
    obtain ⟨x', rest'⟩ := held _ rfl
    refine (Draw.coupled_next rest').bind ?_
    rintro step _ ⟨rfl, held⟩
    match step with
    | none => exact .pure ⟨rfl, nofun⟩
    | some (y, rest) =>
      obtain ⟨y', rest'⟩ := held _ rfl
      refine (Draw.coupled_next rest').bind ?_
      rintro step _ ⟨rfl, -⟩
      match step with
      | none => exact .pure ⟨rfl, fun p e => by cases e; exact ⟨x', y'⟩⟩
      | some _ => exact .pure ⟨rfl, nofun⟩

/-! ## Writing -/

/-- Writing succeeds on both sides or on neither. -/
abbrev Writes (g : Grain) (work work' : Draw β) : Prop :=
  Draw.Coupled g (fun _ _ => True) work work'

/-- Integers can be shown on both sides or on neither. -/
theorem writes_showing {integers integers' : List Int} {a a' : β}
    (h : Decimal.Fit integers ↔ Decimal.Fit integers') :
    Writes g (liftM (Fault.showing integers a)) (liftM (Fault.showing integers' a')) := by
  refine .lift ?_
  by_cases fit : Decimal.Fit integers
  · rw [Fault.showing_of_fit fit, Fault.showing_of_fit (h.mp fit)]
    exact .ok trivial
  · rw [Fault.showing_of_not_fit fit, Fault.showing_of_not_fit (mt h.mpr fit)]
    exact .error rfl

/-- An integer that can be printed is written like something with a form of its own. -/
theorem writes_pure_showing {n : Int} (fit : Decimal.fits n = true) (form text : String) :
    Writes g (pure form) (liftM (Fault.showing [n] text)) := by
  have shown : Fault.showing [n] text = .ok text :=
    Fault.showing_of_fit (List.forall_mem_singleton.mpr fit)
  rw [shown]
  exact .pure trivial

theorem writes_displayedAs {form form' : Draw String} (h : Writes g form form') (v : Value) :
    Writes g (displayedAs form v) (displayedAs form' (v.outline g)) := by
  cases v with
  | text t => exact .pure trivial
  | shape s => exact writes_showing g.fit_map_whole.symm
  | bool b => cases g <;> exact h
  | _ => exact h

/-- Only text has a name, and text is its own outline. -/
theorem corresponding_memberName (v : Value) :
    Corresponding Fault.Alike (fun _ _ => True) (memberName v) (memberName (v.outline g)) := by
  have unnamed : Corresponding Fault.Alike (fun (_ _ : String) => True)
      (.error (Fault.noFeature v.typeName "name"))
      (.error (Fault.noFeature (v.outline g).typeName "name")) := .error rfl
  cases v with
  | text t =>
    cases named : t.memberName? with
    | none =>
      simp only [memberName, named, outline]
      exact unnamed
    | some name =>
      simp only [outline, memberName, named]
      exact .ok trivial
  | bool b => cases g <;> exact unnamed
  | _ => exact unnamed

/-- A pair can be written if its outline can. -/
theorem writes_pairInPrint {form form' : Draw String} (h : Writes g form form') (x t : Value) :
    Writes g (pairInPrint form x t) (pairInPrint form' (x.outline g) (t.outline g)) :=
  (writes_displayedAs h x).bind fun _ _ _ =>
    (Coupled.lift t.corresponding_memberName).bind fun _ _ _ => .pure trivial

/-- Ways to write live views that succeed on both sides or on neither. -/
def WritesLive (g : Grain) (live live' : Source → Draw String) : Prop :=
  ∀ source : Source, source.Holds Upkeep.printed.Held →
    Writes g (live source) (live' (source.outline g))

mutual

/-- `writes_write`, for ways to write live views that succeed on both sides or on neither. -/
theorem writes_writeWith {live live' : Source → Draw String} (lives : WritesLive g live live') :
    ∀ v : Value, Upkeep.printed.Held v → Writes g (writeWith live v) (writeWith live' (v.outline g))
  | .list items, h =>
    (writes_writeItems lives items (allItems_iff.mp h)).bind fun _ _ _ => .pure trivial
  | .tuple items, h =>
    (writes_writeItems lives items (allItems_iff.mp h)).bind fun _ _ _ => .pure trivial
  | .dict entries, h =>
    (writes_writeEntries lives entries (allPairs_iff.mp h)).bind fun _ _ _ => .pure trivial
  | .axisPair x t, h => (writes_writeWith lives x h.1).bind fun _ _ _ =>
      (writes_writeWith lives t h.2).bind fun _ _ _ => .pure trivial
  | .view _ pairs fault _, h => by
    refine (writes_writePairs lives pairs (allPairs_iff.mp h)).bind fun _ _ _ => ?_
    cases fault with
    | none => exact .pure trivial
    | some fault => exact .throw fault.outline_outline
  | .liveView label first second, h => by
    refine (coupled_source (v := .liveView label first second) h).bind ?_
    rintro source _ ⟨rfl, held⟩
    exact lives source held
  | .bool _, _ => by
    cases g with
    | fine => exact .pure trivial
    | coarse => exact writes_pure_showing rfl _ _
  | .int n, _ => writes_showing (@Grain.fit_map_whole g [n]).symm
  | .shape _, _ => writes_showing g.fit_map_whole.symm
  | .index _ _ n, h => writes_pure_showing ((g.fits_whole n).trans h) _ _
  | .absent, _ => .pure trivial
  | .float _, _ => .pure trivial
  | .text _, _ => .pure trivial
  | .bytes _, _ => .pure trivial
  | .iterable _ _ _, _ => .pure trivial
  | .mapping _ _ _, _ => .pure trivial
  | .tensor _ _, _ => .pure trivial
  | .featureless _, _ => .pure trivial
  | .cursor _ _, _ => .pure trivial

theorem writes_writeItems {live live' : Source → Draw String} (lives : WritesLive g live live') :
    ∀ items : List Value, (∀ v ∈ items, Upkeep.printed.Held v) →
      Writes g (writeItems live items) (writeItems live' (outlineItems g items))
  | [], _ => .pure trivial
  | v :: rest, h =>
    have ⟨first, others⟩ := List.forall_mem_cons.mp h
    (writes_writeWith lives v first).bind fun _ _ _ =>
      (writes_writeItems lives rest others).bind fun _ _ _ => .pure trivial

theorem writes_writeEntries {live live' : Source → Draw String} (lives : WritesLive g live live') :
    ∀ entries : List (Value × Value),
      (∀ e ∈ entries, Upkeep.printed.Held e.1 ∧ Upkeep.printed.Held e.2) →
      Writes g (writeEntries live entries) (writeEntries live' (outlinePairs g entries))
  | [], _ => .pure trivial
  | (key, value) :: rest, h =>
    have ⟨first, others⟩ := List.forall_mem_cons.mp h
    (writes_writeWith lives key first.1).bind fun _ _ _ =>
      (writes_writeWith lives value first.2).bind fun _ _ _ =>
        (writes_writeEntries lives rest others).bind fun _ _ _ => .pure trivial

theorem writes_writePairs {live live' : Source → Draw String} (lives : WritesLive g live live') :
    ∀ pairs : List (Value × Value),
      (∀ p ∈ pairs, Upkeep.printed.Held p.1 ∧ Upkeep.printed.Held p.2) →
      Writes g (writePairs live pairs) (writePairs live' (outlinePairs g pairs))
  | [], _ => .pure trivial
  | (x, t) :: rest, h =>
    have ⟨first, others⟩ := List.forall_mem_cons.mp h
    (writes_pairInPrint (writes_writeWith lives x first.1) x t).bind fun _ _ _ =>
      (writes_writePairs lives rest others).bind fun _ _ _ => .pure trivial

end

/-- The pairs that are drawn on both sides are outlines of each other, so they can be written or
cannot. -/
theorem writes_writeDrawn (bound : Nat) {source : Source}
    (h : source.Holds Upkeep.printed.Held) :
    Writes g (writeDrawn bound source) (writeDrawn bound (source.outline g)) := by
  induction bound generalizing source with
  | zero => exact .pure trivial
  | succ bound ih =>
    refine (Draw.coupled_next h).bind ?_
    rintro step _ ⟨rfl, held⟩
    match step with
    | none => exact .pure trivial
    | some (pair, rest) =>
      obtain ⟨pair', rest'⟩ := held _ rfl
      let live (inner : Source) : Draw String := viewInPrint <$> writeDrawn bound inner
      have lives : WritesLive g live live := fun inner h => (ih h).map fun _ _ _ => trivial
      have unplaced : Writes g (throw (.noFeature pair.typeName "dimension") : Draw String)
          (throw (.noFeature (pair.outline g).typeName "dimension")) := .throw rfl
      have written : Writes g (writeDrawn.writeDrawnPair live pair)
          (writeDrawn.writeDrawnPair live (pair.outline g)) := by
        -- a live view inside the pair is written within the bound that is left
        cases pair with
        | axisPair x t => exact writes_pairInPrint (writes_writeWith lives x pair'.1) x t
        | bool b => cases g <;> exact unplaced
        | _ => exact unplaced
      exact written.bind fun _ _ _ => (ih rest').bind fun _ _ _ => .pure trivial

/-- The form of a value can be found just if that of its outline can. -/
theorem writes_write (h : Upkeep.printed.Held v) : Writes g v.write (v.outline g).write := by
  refine Draw.coupled_supply.bind ?_
  rintro supply _ rfl
  exact writes_writeWith (fun source h => (writes_writeDrawn _ h).map fun _ _ _ => trivial) v h

end Value

/-! ## Computations that leave traces -/

/-- A cause without what it shows of values: their forms, and what integers are handed over as. -/
def Cause.outline : Cause → Cause
  | nonIntegerDimension axis _ => nonIntegerDimension axis ""
  | notDimensions _ => notDimensions ""
  | untaggedEntry _ => untaggedEntry ""
  | malformedPair axis _ => malformedPair axis ""
  | axisOutOfRange query _ _ rank => axisOutOfRange query "" "" rank
  | nonIntegerBound bound _ _ rank => nonIntegerBound bound "" "" rank
  | cause => cause

/-- A failure without what it shows of values. -/
def Failure.outline : Failure → Failure
  | rejected cause => rejected cause.outline
  | fault f => fault f.outline
  | failure => failure

/-- The second failure has the outline of the first. -/
def Failure.Alike (failure failure' : Failure) : Prop := failure'.outline = failure.outline

theorem Fault.Alike.failure {f f' : Fault} (h : f.Alike f') :
    (Failure.fault f).Alike (.fault f') := congrArg Failure.fault h

/-- The cursors of the second run are outlines of those of the first, and records are used alike. -/
structure Run.Outlined (g : Grain) (run run' : Run) : Prop where
  logging : run'.logging = run.logging
  cursors : run'.cursors = run.cursors.map (Source.outline g)
  printed : Upkeep.printed.Kept run.cursors

/-- The second computation does with outlines what the first one does with what they are outlines
of, whatever is logged. -/
abbrev Eval.Coupled (g : Grain) (R : α → β → Prop) (work : Eval α) (work' : Eval β) : Prop :=
  TensorShape.Coupled (Run.Outlined g) Failure.Alike R work work'

namespace Eval

open TensorShape (Coupled)

/-- Computations on what has the same outlines compare as both do with the one on the outlines. -/
theorem coupled_join {γ : Type} {R : α → γ → Prop} {T : β → γ → Prop} {work : Eval α}
    {work' : Eval β} {common : Eval γ} (h : Eval.Coupled g R work common)
    (h' : Eval.Coupled g T work' common) {run run' : Run} (same : Run.SameOutline g run run') :
    Run.SameOutline g (work run).2 (work' run').2 ∧
      Corresponding (fun failure failure' => failure.outline = failure'.outline)
        (fun a b => ∃ c, R a c ∧ T b c) (work run).1 (work' run').1 := by
  let start : Run := { run with cursors := run.cursors.map (Source.outline g) }
  have left : Run.Outlined g run start := ⟨rfl, rfl, same.printed⟩
  have right : Run.Outlined g run' start := ⟨same.logging, same.cursors, same.printed'⟩
  obtain ⟨⟨last, left, right⟩, results⟩ := h.join h' left right
  refine ⟨⟨left.logging.symm.trans right.logging, left.cursors.symm.trans right.cursors,
    left.printed, right.printed⟩, results.imp ?_ fun _ _ related => related⟩
  rintro failure failure' ⟨last, left, right⟩
  exact left.symm.trans right

/-- Faults of drawing are failures of the same kind. -/
theorem coupled_ofDraw {R : α → β → Prop} {work : Draw α} {work' : Draw β}
    (h : Draw.Coupled g R work work') : Eval.Coupled g R (ofDraw work) (ofDraw work') := by
  intro run run' same
  obtain ⟨cursors, results⟩ := h run.cursors run'.cursors ⟨same.cursors, same.printed⟩
  rw [ofDraw_apply, ofDraw_apply]
  exact ⟨⟨same.logging, cursors.1, cursors.2⟩, results.mapError fun _ _ => Fault.Alike.failure⟩

theorem coupled_ofFault {R : α → β → Prop} {result : Except Fault α} {result' : Except Fault β}
    (h : Corresponding Fault.Alike R result result') :
    Eval.Coupled g R (ofFault result) (ofFault result') := by
  cases h with
  | ok related => exact .pure related
  | error same => exact .throw same.failure

/-- Reports are coupled if what is written for them can be written on both sides or on neither. -/
theorem coupled_report (channel : Channel) {compose compose' : Draw String}
    (h : Value.Writes g compose compose') :
    Eval.Coupled g (fun _ _ => True) (report channel compose) (report channel compose') :=
  .report (fun _ _ same => same.logging) (coupled_ofDraw h) fun _ _ _ =>
    .modify fun _ _ same => ⟨same.logging, same.cursors, same.printed⟩

theorem coupled_finish (fault : Option Fault) :
    Eval.Coupled g Eq (finish fault) (finish (fault.map Fault.outline)) := by
  cases fault with
  | none => exact .pure rfl
  | some fault => exact .throw (Fault.Alike.failure fault.outline_outline)

variable {R : α → β → Prop} {f : Nat → Value → Eval α} {f' : Nat → Value → Eval β}

theorem coupled_traverse
    (step : ∀ position v, Upkeep.printed.Held v →
      Eval.Coupled g R (f position v) (f' position (v.outline g)))
    (position : Nat) {items : List Value} (h : ∀ v ∈ items, Upkeep.printed.Held v) :
    Eval.Coupled g (Forall₂ R) (traverse f position items)
      (traverse f' position (items.map (Value.outline g))) := by
  have outlines : Forall₂ (fun v v' => v' = v.outline g ∧ Upkeep.printed.Held v) items
      (items.map (Value.outline g)) :=
    List.forall₂_map_right_iff.mpr (List.forall₂_same.mpr fun v held => ⟨rfl, h v held⟩)
  refine Coupled.traverse ?_ position outlines
  rintro position v _ ⟨rfl, held⟩
  exact step position v held

theorem coupled_drain
    (step : ∀ position v, Upkeep.printed.Held v →
      Eval.Coupled g R (f position v) (f' position (v.outline g)))
    (bound position : Nat) {source : Source} (h : source.Holds Upkeep.printed.Held) :
    Eval.Coupled g (Forall₂ R)
      (drain f bound position source) (drain f' bound position (source.outline g)) := by
  induction bound generalizing position source with
  | zero => exact .pure .nil
  | succ bound ih =>
    refine (coupled_ofDraw (Draw.coupled_next h)).bind ?_
    rintro drawn _ ⟨rfl, held⟩
    match drawn with
    | none => exact .pure .nil
    | some (item, rest) =>
      obtain ⟨item', rest'⟩ := held _ rfl
      refine (step position item item').bind fun a b related => ?_
      exact (ih (position + 1) rest').bind fun as bs others => .pure (.cons related others)

/-- Going through the outline of a value is going through outlines of its items. -/
theorem coupled_eachItem
    (step : ∀ position v, Upkeep.printed.Held v →
      Eval.Coupled g R (f position v) (f' position (v.outline g)))
    {v : Value} (h : Upkeep.printed.Held v) :
    Eval.Coupled g (Forall₂ R) (eachItem f v) (eachItem f' (v.outline g)) := by
  unfold eachItem
  rw [v.pass?_outline]
  cases held : v.pass? with
  | some pass =>
    have within := Upkeep.printed.hereditary.pass h held
    refine (coupled_traverse step 0 within).bind fun as bs related => ?_
    exact (coupled_finish pass.fault).bind fun _ _ _ => .pure related
  | none =>
    refine (coupled_ofFault (v.corresponding_source.ensuring fun _ given =>
      Upkeep.printed.hereditary.source h given)).bind ?_
    rintro source _ ⟨rfl, within⟩
    refine (coupled_ofDraw Draw.coupled_supply).bind ?_
    rintro supply _ rfl
    rw [Source.held_outline]
    exact coupled_drain step _ 0 within

/-- The same where the outline of a result is the result for the outline. -/
theorem coupled_eachItem_map {h : α → α} {Q : α → Prop} {f : Nat → Value → Eval α}
    (step : ∀ position v, Upkeep.printed.Held v → Eval.Coupled g (fun a a' => a' = h a ∧ Q a)
      (f position v) (f position (v.outline g))) {v : Value} (held : Upkeep.printed.Held v) :
    Eval.Coupled g (fun results results' => results' = results.map h ∧ ∀ a ∈ results, Q a)
      (eachItem f v) (eachItem f (v.outline g)) := by
  refine (coupled_eachItem step held).imp fun results results' related => ?_
  induction related with
  | nil => exact ⟨rfl, nofun⟩
  | cons same _ ih =>
    obtain ⟨others, rest⟩ := ih
    exact ⟨by rw [List.map_cons, same.1, others], List.forall_mem_cons.mpr ⟨same.2, rest⟩⟩

theorem coupled_items {v : Value} (h : Upkeep.printed.Held v) :
    Eval.Coupled g (fun items items' => items' = items.map (Value.outline g) ∧
        ∀ item ∈ items, Upkeep.printed.Held item)
      (items v) (items (v.outline g)) :=
  coupled_eachItem_map (f := fun _ item => pure item) (fun _ _ held => .pure ⟨rfl, held⟩) h

end Eval

/-- What is no pair is found at the same axis. -/
theorem Shape.coupled_splitPair (axis : Nat) {v : Value} (h : Upkeep.printed.Held v) :
    Eval.Coupled g
      (fun parts parts' => parts' = Prod.map (Value.outline g) (Value.outline g) parts ∧
        Upkeep.printed.Held parts.1 ∧ Upkeep.printed.Held parts.2)
      (splitPair axis v) (splitPair axis (v.outline g)) := by
  refine (Eval.coupled_ofDraw (Value.coupled_pair? h)).bind ?_
  rintro parts _ ⟨rfl, held⟩
  match parts with
  | some parts => exact .pure ⟨rfl, held parts rfl⟩
  | none =>
    have written := Value.writes_write (g := g) h
    refine (Eval.coupled_report _ (written.bind fun _ _ _ => .pure trivial)).bind fun _ _ _ => ?_
    exact (Eval.coupled_ofDraw written).bind fun _ _ _ => .throw rfl

end TensorShape
