import Mathlib.Data.List.Forall2
import TensorShape.Proofs.Acceptance
import TensorShape.Proofs.Codec

/-! # Shapes from what they give out

A shape gives out its dimensions, its tags, the spelling of its layout and the view of its
pairs, and each of the ways to make a shape takes some of these back.  What goes in with the
tags comes out with them (`Shape.Rebuilt`), and what goes in as dimensions alone comes out
without any (`Shape.Stripped`).  The other way round, pairs and spellings are found again in
the shape that is made of them.

All ways end in `construct`, and there it is enough to know that the values fit and what
the layout says (`construct_eq_pure`).  A lone dimension is not taken for a sequence, because
it is an integer (`ofArguments_integers`). -/
namespace TensorShape

open List (Forall₂)

variable {α β : Type}

/-- Going through a list leaves no traces if nothing done with its elements does. -/
theorem Eval.traverse_forall₂ {R : α → β → Prop} {f : Nat → α → Eval β} {l : List α} {bs : List β}
    (step : ∀ position a b, R a b → f position a = pure b) (related : Forall₂ R l bs)
    (position : Nat) : Eval.traverse f position l = pure bs := by
  induction related generalizing position with
  | nil => rfl
  | cons head _ ih => simp only [Eval.traverse, step position _ _ head, ih, pure_bind]

namespace Shape

variable {s : Shape} {values : List Value} {dimensions : List Int} {layout v : Value}
  {tags : Layout}

/-! ## From dimensions -/

theorem allFit_dimensions (h : ∀ d ∈ dimensions, -1 ≤ d) :
    AllFit (dimensions.map .int) dimensions where
  integers := by
    rw [List.map_map]
    rfl
  bounded := h

/-- The spelling of a layout says what the layout says. -/
theorem layoutFrom_encode (rank : Nat) (tags : Layout) :
    layoutFrom rank (.plain (Layout.encode tags)) = pure tags := Layout.reads_encode tags

theorem construct_encode (fit : AllFit values dimensions)
    (lengths : tags.length = dimensions.length) :
    construct values (.plain (Layout.encode tags)) = pure ⟨dimensions, tags⟩ :=
  construct_eq_pure fit (layoutFrom_encode _ tags) lengths

theorem construct_absent (fit : AllFit values dimensions) :
    construct values .absent = pure ⟨dimensions, Layout.silent dimensions.length⟩ :=
  construct_eq_pure fit rfl (List.length_replicate ..)

/-! ## From arguments -/

/-- A lone argument of a kind that is neither text nor a shape holds the dimensions. -/
theorem ofArguments_of_pass (held : v.pass? = some (.ofList values))
    (iterable : v.isDeclaredIterable = true) (none : v.integer? = none) (text : ∀ t, v ≠ .text t)
    (notShape : ∀ s, v ≠ .shape s) (layout : Value) :
    ofArguments [v] layout = construct values layout := by
  rw [ofArguments_lone none text notShape, if_pos iterable, Eval.items_of_pass held, pure_bind]

theorem ofArguments_list (values : List Value) (layout : Value) :
    ofArguments [.list values] layout = construct values layout :=
  ofArguments_of_pass (v := .list values) rfl rfl rfl nofun nofun layout

/-- Integers are the dimensions themselves, even a single one. -/
theorem ofArguments_integers (integers : ∀ v ∈ values, ∃ n, v.integer? = some n) (layout : Value) :
    ofArguments values layout = construct values layout := by
  funext run
  refine ofArguments_of_offered (.arguments fun v lone => integers v ?_)
  rw [lone]
  exact List.mem_singleton_self v

theorem ofTensor_of_pass (held : v.pass? = some (.ofList values)) (object : Object)
    (layout : Value) : ofTensor (.tensor object v) layout = construct values layout := by
  rw [ofTensor, Eval.items_of_pass held, pure_bind]

/-! ## From pairs -/

/-- A pair whose places are the dimension and the tag of an axis. -/
def Describes (v : Value) (axis : Axis) : Prop :=
  v = .tuple [.int axis.dimension, .tag axis.tag] ∨ v = .ofAxis axis

theorem Describes.splitPair {axis : Axis} (h : Describes v axis) (position : Nat) :
    Shape.splitPair position v = pure (.int axis.dimension, .tag axis.tag) := by
  rcases h with rfl | rfl
  · exact splitPair_of_pass position rfl
  · exact splitPair_of_pass position rfl

theorem Describes.same {axis : Axis} (h : Describes v axis) :
    Value.same (.ofAxis axis) v = true := by
  rcases h with rfl | rfl
  · simp [Value.ofAxis, Value.tag, Value.same, Value.places?, Value.number?]
  · simp [Value.ofAxis, Value.tag, Value.same, Value.places?, Value.number?]

/-- Pairs that describe axes are read as these axes. -/
theorem ofPairs_of_describes {axes : List Axis} (described : Forall₂ Describes values axes)
    (bounded : ∀ axis ∈ axes, -1 ≤ axis.dimension) :
    ofPairs (.list values) = pure (ofAxes axes) := by
  let parts : List (Value × Value) := axes.map fun axis => (.int axis.dimension, .tag axis.tag)
  have split (position : Nat) : Eval.traverse splitPair position values = pure parts := by
    refine Eval.traverse_forall₂ (R := fun v parts => ∃ axis, Describes v axis ∧
      parts = (.int axis.dimension, .tag axis.tag)) ?_ ?_ position
    · rintro position v parts ⟨axis, h, rfl⟩
      exact h.splitPair position
    · exact List.forall₂_map_right_iff.mpr (described.imp fun v axis h => ⟨axis, h, rfl⟩)
  have read : Eval.eachItem splitPair (.list values) = pure parts := by
    rw [Eval.eachItem_of_pass rfl]
    simp only [Pass.ofList, split, pure_bind, Eval.finish]
  rw [ofPairs, read, pure_bind]
  exact ofParts_eq (valid_ofAxes_iff.mpr bounded)

/-- Pairs that describe axes are equal to those that are listed of the shape. -/
theorem sameItems_of_describes {axes : List Axis} (described : Forall₂ Describes values axes) :
    Value.same (.list (axes.map .ofAxis)) (.list values) = true := by
  rw [Value.same]
  induction described with
  | nil => rfl
  | cons head _ ih => rw [List.map_cons, Value.sameItems, head.same, ih, Bool.and_self]

/-! ## There and back -/

/-- An operation gives a shape and leaves no traces. -/
def Makes (operation : Operation) (s : Shape) : Prop := operation.run = pure (.value (.shape s))

theorem Makes.of_eq {operation : Operation} {work : Eval Shape} (run : operation.run =
    (do return Result.value (.shape (← work)))) (h : work = pure s) : Makes operation s := by
  rw [Makes, run, h, pure_bind]

/-- What gives a shape back with its tags. -/
structure Rebuilt (s : Shape) : Prop where
  copied : Makes (.construct [.shape s] .absent) s
  fromLists : Makes (.construct [.tuple (Value.dimensions s)] (.tuple (Value.layout s))) s
  /-- The spelling of the layout can be asked for, and does instead of the tags. -/
  spelled : (Operation.query s .layoutSpelling).run = pure (.value (.plain s.layoutSpelling))
  fromSpelling : Makes (.construct [.tuple (Value.dimensions s)] (.plain s.layoutSpelling)) s
  copiedWithSpelling : Makes (.construct [.shape s] (.plain s.layoutSpelling)) s
  fromView : Makes (.fromPairs (.pairsOf s)) s
  /-- The pairs can also be listed first. -/
  listed : (Operation.items (.pairsOf s)).run = pure (.value (.list (s.axes.map .ofAxis)))
  fromListedPairs : Makes (.fromPairs (.list (s.axes.map .ofAxis))) s
  ofTensor : ∀ object v,
    v = .shape s ∨ v = .tuple (Value.dimensions s) ∨ v = .list (Value.dimensions s) →
    Makes (.ofTensor (.tensor object v) (.tuple (Value.layout s))) s

/-- What gives the dimensions of a shape back, and no tags. -/
structure Stripped (s : Shape) : Prop where
  fromList : Makes (.construct [.tuple (Value.dimensions s)] .absent)
    ⟨s.dimensions, Layout.silent s.rank⟩
  fromArguments : Makes (.construct (Value.dimensions s) .absent)
    ⟨s.dimensions, Layout.silent s.rank⟩
  ofTensor : ∀ object v,
    v = .shape s ∨ v = .tuple (Value.dimensions s) ∨ v = .list (Value.dimensions s) →
    Makes (.ofTensor (.tensor object v) .absent) ⟨s.dimensions, Layout.silent s.rank⟩

theorem pass?_of_holdsDimensions
    (h : v = .shape s ∨ v = .tuple (Value.dimensions s) ∨ v = .list (Value.dimensions s)) :
    v.pass? = some (.ofList (Value.dimensions s)) := by
  rcases h with rfl | rfl | rfl
  · rfl
  · rfl
  · rfl

theorem Valid.rebuilt (valid : s.Valid) : s.Rebuilt where
  copied := .of_eq rfl (construct_of_valid valid)
  fromLists := .of_eq rfl (checked_of_valid valid)
  spelled := rfl
  fromSpelling := by
    have made := construct_encode (allFit_dimensions valid.bounded) valid.layout_length
    exact .of_eq rfl ((ofArguments_tuple _ _).trans made)
  copiedWithSpelling := .of_eq rfl
    (construct_encode (allFit_dimensions valid.bounded) valid.layout_length)
  fromView := .of_eq rfl (ofPairs_pairsOf valid)
  listed := by rw [Operation.run, Eval.items_of_pass (pass?_pairsOf valid), pure_bind]
  fromListedPairs := by
    have whole := ofAxes_axes valid
    have made := ofPairs_of_pass (v := .list (s.axes.map .ofAxis)) (by rwa [whole]) rfl
    rw [whole] at made
    exact .of_eq rfl made
  ofTensor object v h := .of_eq rfl
    ((ofTensor_of_pass (pass?_of_holdsDimensions h) object _).trans (construct_of_valid valid))

theorem Valid.stripped (valid : s.Valid) : s.Stripped := by
  have made : construct (Value.dimensions s) .absent = pure ⟨s.dimensions, Layout.silent s.rank⟩ :=
    construct_absent (allFit_dimensions valid.bounded)
  refine ⟨.of_eq rfl ?_, .of_eq rfl ?_, fun object v h => .of_eq rfl ?_⟩
  · rw [ofArguments_tuple, made]
  · rw [ofArguments_integers, made]
    intro v held
    obtain ⟨d, _, rfl⟩ := List.mem_map.mp held
    exact ⟨d, rfl⟩
  · rw [ofTensor_of_pass (pass?_of_holdsDimensions h), made]

/-- Shapes and what they give out determine each other. -/
structure Reconstruction : Prop where
  rebuilt : ∀ {s : Shape}, s.Valid → s.Rebuilt
  stripped : ∀ {s : Shape}, s.Valid → s.Stripped
  /-- The pairs that a shape is made of are the ones that it lists. -/
  paired : ∀ {axes : List Axis} {pairs : List Value}, Forall₂ Describes pairs axes →
    (∀ axis ∈ axes, -1 ≤ axis.dimension) →
    ∃ s, Makes (.fromPairs (.list pairs)) s ∧
      (Operation.items (.pairsOf s)).run = pure (.value (.list (axes.map .ofAxis))) ∧
      Value.same (.list (axes.map .ofAxis)) (.list pairs) = true
  /-- Dimensions and tags are the ones that a shape is made of, if the tags are spelled. -/
  spelled : ∀ {dimensions : List Int} {tags : Layout}, (∀ d ∈ dimensions, -1 ≤ d) →
    tags.length = dimensions.length →
    ∃ s spelling,
      (Operation.spellLayout (.list (tags.map .tag))).run = pure (.value (.plain spelling)) ∧
      Makes (.construct [.list (dimensions.map .int)] (.plain spelling)) s ∧
      s.dimensions = dimensions ∧ s.layout = tags ∧
      (Operation.query s .layoutSpelling).run = pure (.value (.plain spelling))

theorem spell_list (tags : Layout) :
    Layout.spell (.list (tags.map .tag)) = pure (Layout.encode tags) := by
  funext run
  have held : Eval.items (.list (tags.map .tag)) = pure (tags.map .tag) := Eval.items_of_pass rfl
  rw [Layout.spell_of_tags (congrFun held run)]
  rfl

/-- **A shape can be made again of what it gives out**, and gives out what it was made of. -/
theorem reconstruction : Reconstruction where
  rebuilt := Valid.rebuilt
  stripped := Valid.stripped
  paired {axes pairs} described bounded := by
    have valid : (ofAxes axes).Valid := valid_ofAxes_iff.mpr bounded
    refine ⟨ofAxes axes, .of_eq rfl (ofPairs_of_describes described bounded), ?_,
      sameItems_of_describes described⟩
    rw [Operation.run, Eval.items_of_pass (pass?_pairsOf valid), pure_bind, axes_ofAxes]
  spelled {dimensions tags} bounded lengths := by
    have made := construct_encode (allFit_dimensions bounded) lengths
    refine ⟨⟨dimensions, tags⟩, Layout.encode tags, ?_, ?_, rfl, rfl, rfl⟩
    · rw [Operation.run, spell_list, pure_bind]
    · exact .of_eq rfl ((ofArguments_list _ _).trans made)

/-- A shape with one axis of unknown extent: the lone dimension is not taken for a sequence. -/
theorem reconstruction_lone :
    let s : Shape := ⟨[-1], [.time]⟩
    s.Valid ∧ Makes (.construct [.int (-1)] .absent) ⟨[-1], [.unknown]⟩ ∧
      Makes (.fromPairs (.pairsOf s)) s ∧
      ∃ t, Makes (.fromPairs (.list [.tuple [.int 0, .tag .width]])) t ∧
        (Operation.items (.pairsOf t)).run
          = pure (.value (.list [.axisPair (.int 0) (.tag .width)])) := by
  intro s
  have valid : s.Valid := by decide
  have described : Forall₂ Describes [.tuple [.int 0, .tag .width]] [⟨0, .width⟩] :=
    .cons (.inl rfl) .nil
  obtain ⟨t, made, listed, -⟩ := reconstruction.paired described (by decide)
  exact ⟨valid, (reconstruction.stripped valid).fromArguments,
    (reconstruction.rebuilt valid).fromView, t, made, listed⟩

end Shape
end TensorShape
