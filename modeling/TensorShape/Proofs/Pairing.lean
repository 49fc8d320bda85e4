import TensorShape.Proofs.Accounting
import TensorShape.Proofs.Frame

/-! # Shapes from arbitrary pairs

What `ofPairs` does is a list of rules as well (`Shape.ReadOff`).  A value is a pair if going
through it gives exactly two items (`Value.Unpacks`), so whether it is one may depend on
where the cursors stand.  Items are drawn and unpacked one by one (`Source.Splits`), which
finds the first that is no pair, and it is refused before anything in the pairs ahead of it
is looked at.  If there is none, the places of the pairs are the dimensions and the tags,
and all the rest is left to the constructor.

Every rule is sound (`ReadOff.eq`) and one always applies (`exists_readOff`).  The search
for it ends because what an item gives while it is unpacked was there before
(`Value.spares_pair?`). -/
namespace TensorShape

/-! ## What a pair is -/

/-- Going through a value gives two items and no more. -/
def Value.Unpacks (v : Value) (cursors : List Source) (parts : Value × Value)
    (after : List Source) : Prop :=
  ∃ source rest between, v.source = .ok source ∧
    source.Gives cursors [parts.1, parts.2] rest between ∧
      Draw.next rest between = (.ok none, after)

namespace Value

variable {v : Value} {cursors after : List Source} {parts : Value × Value}

theorem pair?_of_taken {found : Option (Value × Value)}
    (h : pair?.taken v cursors = (.ok found, after)) : v.pair? cursors = (.ok found, after) := by
  rw [pair?, tryCatch_apply, h]

/-- A value that cannot be taken apart is no pair. -/
theorem pair?_of_untaken {fault : Fault} (h : pair?.taken v cursors = (.error fault, after)) :
    v.pair? cursors = (.ok none, after) := by
  rw [pair?, tryCatch_apply, h]
  rfl

/-- Two items are taken of a value just if it unpacks into them. -/
theorem taken_eq_some_iff :
    pair?.taken v cursors = (.ok (some parts), after) ↔ v.Unpacks cursors parts after := by
  constructor
  · intro h
    match found : v.source with
    | .error fault =>
      rw [pair?.taken, found] at h
      cases h
    | .ok source =>
      rw [pair?.taken, found] at h
      change (Draw.next source >>= _) cursors = _ at h
      obtain ⟨_ | ⟨x, rest⟩, between, first, h⟩ := bind_eq_ok_iff.mp h
      · cases h
      obtain ⟨_ | ⟨t, rest⟩, between, second, h⟩ := bind_eq_ok_iff.mp h
      · cases h
      obtain ⟨_ | _, between, ended, h⟩ := bind_eq_ok_iff.mp h
      · cases h
        exact ⟨source, rest, _, found, .cons first (.cons second .nil), ended⟩
      · cases h
  · rintro ⟨source, rest, between, found, given, ended⟩
    rcases given with _ | ⟨first, _ | ⟨second, _ | _⟩⟩
    rw [pair?.taken, found]
    show (Draw.next source >>= _) cursors = _
    rw [bind_of_ok first]
    show (Draw.next _ >>= _) _ = _
    rw [bind_of_ok second]
    show (Draw.next _ >>= _) _ = _
    rw [bind_of_ok ended]
    rfl

theorem pair?_eq_some_iff :
    v.pair? cursors = (.ok (some parts), after) ↔ v.Unpacks cursors parts after := by
  rw [← taken_eq_some_iff]
  match done : pair?.taken v cursors with
  | (.ok _, _) => rw [pair?_of_taken done]
  | (.error _, _) =>
    rw [pair?_of_untaken done]
    exact ⟨nofun, nofun⟩

theorem pair?_eq_none (h : ∀ parts after, ¬ v.Unpacks cursors parts after) :
    v.pair? cursors = (.ok none, (v.pair? cursors).2) := by
  match done : v.pair? cursors with
  | (.ok none, after) => rfl
  | (.ok (some parts), after) => exact absurd (pair?_eq_some_iff.mp done) (h parts after)
  | (.error fault, after) => exact absurd (by rw [done]) (Shape.pair?_ne_error v cursors fault)

theorem pair?_of_pass {pass : Pass} (held : v.pass? = some pass) (cursors : List Source) :
    v.pair? cursors = (.ok (match pass with
      | ⟨[x, t], none⟩ => some (x, t)
      | _ => none), cursors) := by
  rw [pair?, pair?.taken, Eval.source_of_pass held]
  -- three items settle it, and so does a fault before the third
  rcases pass with ⟨_ | ⟨x, _ | ⟨t, _ | ⟨w, rest⟩⟩⟩, _ | fault⟩ <;> rfl

/-- A value that holds its items is a pair just if it holds two. -/
theorem unpacks_iff_of_pass {pass : Pass} (held : v.pass? = some pass) :
    v.Unpacks cursors parts after ↔ pass = .ofList [parts.1, parts.2] ∧ after = cursors := by
  rw [← pair?_eq_some_iff, pair?_of_pass held]
  constructor
  · intro h
    split at h
    · cases h
      exact ⟨rfl, rfl⟩
    · cases h
  · rintro ⟨rfl, rfl⟩
    rfl

/-- What cannot be gone through is no pair. -/
theorem not_unpacks_of_not_iterable (h : v.isIterable = false) :
    ¬ v.Unpacks cursors parts after := by
  rintro ⟨source, _, _, found, -⟩
  cases found.symm.trans (Eval.source_of_not_iterable h)

theorem Unpacks.total_le (h : v.Unpacks cursors parts after) :
    Draw.total after ≤ Draw.total cursors := by
  have spared := (spares_pair? v).total_le cursors
  rwa [pair?_eq_some_iff.mpr h] at spared

end Value

/-! ## The rules -/

/-- Drawing items from a source one by one, and unpacking each before the next is drawn, gives some
pairs, and leaves a source and the cursors as they are then. -/
inductive Source.Splits :
    Source → List Source → List (Value × Value) → Source → List Source → Prop
  | nil {source cursors} : Splits source cursors [] source cursors
  | cons {source cursors item rest drawn parts between all last after} :
    Draw.next source cursors = (.ok (some (item, rest)), drawn) →
    item.Unpacks drawn parts between → Splits rest between all last after →
    Splits source cursors (parts :: all) last after

namespace Shape

/-- What comes of making a shape of the items of a value. -/
inductive ReadOff (v : Value) (run : Run) : Except Failure Shape × Run → Prop
  | noSource {fault} : v.source = .error fault → ReadOff v run (.error (.fault fault), run)
  | brokenOff {source parts rest between fault after} : v.source = .ok source →
    source.Splits run.cursors parts rest between → Draw.next rest between = (.error fault, after) →
    ReadOff v run (.error (.fault fault), { run with cursors := after })
  /-- The first item that is no pair is refused, and those after it are not drawn. -/
  | malformed {source parts rest between item left drawn failure after} : v.source = .ok source →
    source.Splits run.cursors parts rest between →
    Draw.next rest between = (.ok (some (item, left)), drawn) →
    (∀ parts after, ¬ item.Unpacks drawn parts after) →
    NoPair parts.length item { run with cursors := (item.pair? drawn).2 } failure after →
    ReadOff v run (.error failure, after)
  /-- If all items are pairs, their places are the dimensions and the tags. -/
  | pairs {source parts rest between after outcome} : v.source = .ok source →
    source.Splits run.cursors parts rest between → Draw.next rest between = (.ok none, after) →
    ofArguments [.tuple (parts.map Prod.fst)] (.tuple (parts.map Prod.snd))
      { run with cursors := after } = outcome →
    ReadOff v run outcome

end Shape

/-! ## Every rule is sound -/

namespace Source.Splits

variable {source last : Source} {cursors after : List Source} {parts : List (Value × Value)}

/-- What has been given is missing from what is held. -/
theorem held_add_total (h : Splits source cursors parts last after) :
    last.held + Draw.total after + parts.length ≤ source.held + Draw.total cursors := by
  induction h with
  | nil => simp
  | cons drawn unpacked _ ih =>
    have := Draw.held_next drawn
    have := unpacked.total_le
    simp only [List.length_cons]
    omega

theorem length_le (h : Splits source cursors parts last after) :
    parts.length ≤ source.held + Draw.total cursors :=
  Nat.le_trans (Nat.le_add_left _ _) h.held_add_total

end Source.Splits

namespace Shape

variable {v item : Value} {run after : Run} {failure : Failure}

theorem splitPair_of_unpacks (axis : Nat) {parts : Value × Value} {last : List Source}
    (h : item.Unpacks run.cursors parts last) :
    splitPair axis item run = (.ok parts, { run with cursors := last }) := by
  rw [splitPair, bind_of_ok (Eval.ofDraw_of_ok (Value.pair?_eq_some_iff.mpr h))]
  rfl

theorem reaches_splits {source rest : Source} {cursors between : List Source}
    {parts : List (Value × Value)} (h : source.Splits cursors parts rest between) (run : Run)
    (position : Nat) : Eval.Reaches splitPair position source { run with cursors } parts rest
      { run with cursors := between } := by
  induction h generalizing position with
  | nil => exact .nil
  | cons drawn unpacked _ ih =>
    exact .cons drawn (splitPair_of_unpacks position unpacked) (ih (position + 1))

/-- Every rule says what comes of the items. -/
theorem ReadOff.eq {outcome : Except Failure Shape × Run} (h : ReadOff v run outcome) :
    ofPairs v run = outcome := by
  cases h with
  | noSource none => rw [ofPairs, Eval.eachItem_of_source_error _ none]; rfl
  | brokenOff found splits broken =>
    have read := (reaches_splits splits run 0).eachItem found splits.length_le
      fun bound => by rw [Eval.drain_apply, broken]
    exact bind_of_error read _
  | @malformed _ parts _ _ item _ cursors failure last found splits drawn unpaired refused =>
    have failed : splitPair parts.length item { run with cursors } = (.error failure, last) :=
      splitPair_of_noPair (Value.pair?_eq_none unpaired) refused
    have read := (reaches_splits splits run 0).eachItem found splits.length_le
      fun bound => by
        rw [Eval.drain_apply, drawn]
        exact bind_of_error failed _
    exact bind_of_error read _
  | @pairs _ parts _ _ _ _ found splits ended same =>
    have read := (reaches_splits splits run 0).eachItem found splits.length_le
      fun bound => by rw [Eval.drain_apply, ended]
    rw [ofPairs, bind_of_ok read]
    show ofParts (parts ++ []) _ = _
    rw [List.append_nil]
    exact same

/-- A source gives pairs for as long as it can, and then either ends, gives something else or breaks
off. -/
theorem exists_splits (source : Source) (cursors : List Source) :
    ∃ parts rest between after, source.Splits cursors parts rest between ∧
      (Draw.next rest between = (.ok none, after) ∨
        (∃ item left, Draw.next rest between = (.ok (some (item, left)), after) ∧
          ∀ parts last, ¬ item.Unpacks after parts last) ∨
        ∃ fault, Draw.next rest between = (.error fault, after)) := by
  match drawn : Draw.next source cursors with
  | (.ok none, after) => exact ⟨[], source, cursors, after, .nil, .inl drawn⟩
  | (.error fault, after) => exact ⟨[], source, cursors, after, .nil, .inr (.inr ⟨fault, drawn⟩)⟩
  | (.ok (some (item, left)), after) =>
    by_cases paired : ∃ parts last, item.Unpacks after parts last
    · obtain ⟨parts, last, unpacked⟩ := paired
      -- an item given is an item used up, and unpacking it puts nothing back
      have := Draw.held_next drawn
      have := unpacked.total_le
      obtain ⟨all, rest, between, end', splits, why⟩ := exists_splits left last
      exact ⟨parts :: all, rest, between, end', .cons drawn unpacked splits, why⟩
    · exact ⟨[], source, cursors, after, .nil,
        .inr (.inl ⟨item, left, drawn, fun parts last h => paired ⟨parts, last, h⟩⟩)⟩
termination_by source.held + Draw.total cursors

/-- Some rule applies. -/
theorem exists_readOff (v : Value) (run : Run) : ∃ outcome, ReadOff v run outcome := by
  match found : v.source with
  | .error fault => exact ⟨_, .noSource found⟩
  | .ok source =>
    obtain ⟨parts, rest, between, after, splits, why⟩ := exists_splits source run.cursors
    rcases why with ended | ⟨item, left, drawn, unpaired⟩ | ⟨fault, broken⟩
    · exact ⟨_, .pairs found splits ended rfl⟩
    · obtain ⟨failure, last, refused⟩ := exists_noPair parts.length item
        { run with cursors := (item.pair? after).2 }
      exact ⟨_, .malformed found splits drawn unpaired refused⟩
    · exact ⟨_, .brokenOff found splits broken⟩

/-- Pairs are read off as the rules say, and not otherwise. -/
theorem ofPairs_iff_readOff {outcome : Except Failure Shape × Run} :
    ofPairs v run = outcome ↔ ReadOff v run outcome := by
  constructor
  · rintro rfl
    obtain ⟨outcome, readOff⟩ := exists_readOff v run
    rwa [readOff.eq]
  · exact ReadOff.eq

/-! ## What can be refused of pairs -/

section Lists

variable {values tags : List Value} {cause : Cause}

theorem traverse_length {α β : Type} {f : Nat → α → Eval β} {position : Nat} {l : List α}
    {bs : List β} (h : Eval.traverse f position l run = (.ok bs, after)) :
    bs.length = l.length := by
  induction l generalizing position run bs with
  | nil => cases h; rfl
  | cons a rest ih =>
    obtain ⟨b, between, -, h⟩ := bind_eq_ok_iff.mp h
    obtain ⟨others, last, done, h⟩ := bind_eq_ok_iff.mp h
    cases h
    rw [List.length_cons, List.length_cons, ih done]

/-- A tuple that is read as a layout has as many tags as entries. -/
theorem length_of_layoutFrom {rank : Nat} {read : Layout}
    (h : layoutFrom rank (.tuple tags) run = (.ok read, after)) : read.length = tags.length := by
  have given : Value.tuple tags ≠ .absent := nofun
  rw [layoutFrom_eq_eachItem rank given nofun, Eval.eachItem_of_pass rfl] at h
  obtain ⟨results, between, done, h⟩ := bind_eq_ok_iff.mp h
  cases h
  exact traverse_length done

/-- Of lists of equal lengths only a dimension or an entry of the layout can be refused. -/
theorem rejected_of_lists (lengths : values.length = tags.length)
    (h : assemble values (.tuple tags) run = (.error (.rejected cause), after)) :
    (∃ axis v, Misfit axis v (.rejected cause)) ∨ ∃ typeName, cause = .untaggedEntry typeName := by
  rcases allFit_or_misfit values with
    ⟨dimensions, fit⟩ | ⟨fitting, v, rest, refused, rfl, fit, misfit⟩
  · right
    have rank : dimensions.length = values.length := by
      simpa using (congrArg List.length fit.integers).symm
    rw [assemble_of_allFit fit] at h
    obtain ⟨result, last, read⟩ := exists_layoutRead dimensions.length (.tuple tags) run
    have done := layoutFrom_of_layoutRead read
    match result with
    | .ok layout =>
      have same := length_of_layoutFrom done
      rw [bind_of_ok done, if_pos (by omega)] at h
      cases h
    | .error failure =>
      rw [bind_of_error done] at h
      cases h
      cases read
      exact ⟨_, rfl⟩
  · left
    rw [assemble, dimensionsFrom_of_misfit 0 rest fit (by rwa [Nat.zero_add])] at h
    cases h
    exact ⟨_, _, misfit⟩

/-- What the constructor refuses it has found wrong while assembling the shape. -/
theorem rejected_of_construct {layout : Value}
    (h : construct values layout run = (.error (.rejected cause), after)) :
    ∃ between, assemble values layout run = (.error (.rejected cause), between) := by
  by_cases rejected : ∃ found between,
      assemble values layout run = (.error (.rejected found), between)
  · obtain ⟨found, between, done⟩ := rejected
    obtain ⟨outcome, refused⟩ := exists_refused values layout found between
    rw [construct_of_refused done refused] at h
    subst h
    cases refused
    exact ⟨between, done⟩
  · have same : construct values layout run = assemble values layout run :=
      construct_of_unrejected rfl fun found e => rejected ⟨found, _, Prod.ext e rfl⟩
    exact absurd ⟨cause, after, same.symm.trans h⟩ rejected

end Lists

/-- Of pairs only a dimension or an entry of the layout can be refused. -/
theorem rejected_of_parts {parts : List (Value × Value)} {cause : Cause}
    (h : ofArguments [.tuple (parts.map Prod.fst)] (.tuple (parts.map Prod.snd)) run
      = (.error (.rejected cause), after)) :
    (∃ axis x, Misfit axis x (.rejected cause)) ∨ ∃ typeName, cause = .untaggedEntry typeName := by
  rw [ofArguments_tuple] at h
  obtain ⟨between, rejected⟩ := rejected_of_construct h
  exact rejected_of_lists (by simp) rejected

/-- Items are refused because one of them is no pair, or for a dimension or an entry of the layout,
and for nothing else. -/
theorem rejected_of_ofPairs {cause : Cause}
    (h : ofPairs v run = (.error (.rejected cause), after)) :
    (∃ axis form, cause = .malformedPair axis form) ∨ (∃ axis x, Misfit axis x (.rejected cause)) ∨
      ∃ typeName, cause = .untaggedEntry typeName := by
  cases ofPairs_iff_readOff.mp h with
  | malformed _ _ _ _ refused =>
    cases refused
    exact .inl ⟨_, _, rfl⟩
  | pairs _ _ _ same => exact .inr (rejected_of_parts same)

theorem ofArguments_of_misfit {before later : List (Value × Value)} {pair : Value × Value}
    {failure : Failure} {outcome : Except Failure Shape × Run}
    (fit : ∀ p ∈ before, ∃ d, Fits p.1 d) (misfit : Misfit before.length pair.1 failure)
    (refused : Refused ((before ++ pair :: later).map Prod.fst)
      (.tuple ((before ++ pair :: later).map Prod.snd)) run failure outcome) :
    ofArguments [.tuple ((before ++ pair :: later).map Prod.fst)]
      (.tuple ((before ++ pair :: later).map Prod.snd)) run = outcome := by
  rw [ofArguments_tuple]
  rw [List.map_append, List.map_cons] at refused ⊢
  refine construct_of_misfit (List.forall_mem_map.mpr fit) ?_ refused
  rwa [List.length_map]

end Shape

/-! ## What is left of a cursor -/

section Cursors

variable {place : Nat} {pass : Pass} {cursors after : List Source}

/-- What a cursor over items of its own gives is the first of them. -/
theorem Draw.next_own_cursor {item : Value} {rest : Source}
    (h : cursors[place]? = some (.own pass))
    (drawn : next (.shared place) cursors = (.ok (some (item, rest)), after)) :
    ∃ later, pass.items = item :: later ∧ rest = .shared place ∧
      after = cursors.set place (.own ⟨later, pass.fault⟩) := by
  obtain ⟨found, between, advanced, drawn⟩ := bind_eq_ok_iff.mp drawn
  obtain ⟨_ | ⟨first, later⟩, fault⟩ := pass
  · rw [advance_apply h] at advanced
    cases fault <;> cases advanced
    cases drawn
  · cases (advance_own_cons h).symm.trans advanced
    cases drawn
    exact ⟨later, rfl, rfl, rfl⟩

open Value (Avoids)

/-- Reading pairs off a cursor leaves it the items after them. -/
theorem Source.Splits.apart {source last : Source} {parts : List (Value × Value)}
    (splits : source.Splits cursors parts last after) (from' : source = .shared place)
    (h : Apart place (some (.own pass)) cursors) (avoid : ∀ item ∈ pass.items, item.Avoids place) :
    last = .shared place ∧
      Apart place (some (.own ⟨pass.items.drop parts.length, pass.fault⟩)) after := by
  induction splits generalizing pass with
  | nil => exact ⟨from', h⟩
  | cons drawn unpacked _ ih =>
    subst from'
    obtain ⟨later, items, rfl, rfl⟩ := Draw.next_own_cursor h.there drawn
    rw [items] at avoid
    obtain ⟨first, others⟩ := List.forall_mem_cons.mp avoid
    have moved := h.set_self (.own ⟨later, pass.fault⟩)
    have kept := (Upkeep.ensures_pair? (u := .apart place _) first _ moved).1
    rw [Value.pair?_eq_some_iff.mpr unpacked] at kept
    have rest := ih rfl kept others
    rwa [items]

/-- To write what does not lead to a cursor leaves the cursor alone, -/
theorem Apart.write {item : Value} (avoids : item.Avoids place) {source : Source}
    (h : Apart place (some source) cursors) {result : Except Fault String}
    (written : item.write cursors = (result, after)) : Apart place (some source) after := by
  have kept := (Upkeep.ensures_write (u := .apart place _) avoids _ h).1
  rwa [written] at kept

/-- and so does a report that such a value is no pair. -/
theorem Apart.reported {item : Value} (avoids : item.Avoids place) {source : Source}
    {run last : Run} {axis : Nat} {fault : Option Fault}
    (reported : Eval.Reported .shape (Shape.pairText axis item) run fault last)
    (h : Apart place (some source) run.cursors) : Apart place (some source) last.cursors := by
  have composes :
      Ensures (Upkeep.apart place source).Kept (Shape.pairText axis item) fun _ => True :=
    (Upkeep.ensures_write avoids).bind fun _ _ => .pure trivial
  have kept := (Upkeep.maintains_report .shape composes run h).1
  rwa [reported.eq] at kept

/-- If an item of a cursor is no pair, the cursor is left with the items after it. -/
theorem Shape.ofPairs_cursor_malformed {kind : CursorKind} {run last : Run} {axis : Nat}
    {form : String} (h : Apart place (some (.own pass)) run.cursors)
    (avoid : ∀ item ∈ pass.items, item.Avoids place)
    (failed : ofPairs (.cursor kind place) run
      = (.error (.rejected (.malformedPair axis form)), last)) :
    last.cursors[place]? = some (.own ⟨pass.items.drop (axis + 1), pass.fault⟩) := by
  cases ofPairs_iff_readOff.mp failed with
  | @malformed _ parts _ _ _ _ _ _ _ found splits drawn _ refused =>
    cases found
    cases refused with
    | refused reported second =>
      obtain ⟨rfl, reached⟩ := splits.apart rfl h avoid
      obtain ⟨later, listed, rfl, rfl⟩ := Draw.next_own_cursor reached.there drawn
      have items : pass.items.drop parts.length = _ :: later := listed
      have item := avoid _ (List.mem_of_mem_drop (items ▸ List.mem_cons_self))
      have moved := reached.set_self (.own ⟨later, pass.fault⟩)
      have unpacked := (Upkeep.ensures_pair? (u := .apart place _) item _ moved).1
      have written := (Apart.reported item reported unpacked).write item second
      have rest : pass.items.drop (parts.length + 1) = later := by
        rw [← List.drop_drop, items]
        rfl
      rw [rest]
      exact written.there
  | pairs _ _ _ same =>
    rcases rejected_of_parts same with ⟨_, _, misfit⟩ | ⟨_, untagged⟩
    · cases misfit
    · cases untagged

end Cursors

namespace Shape

/-- What is made of the items of a value, whatever they are. -/
structure PairsExact : Prop where
  rules : ∀ v run outcome, ofPairs v run = outcome ↔ ReadOff v run outcome
  /-- A value of any kind that holds its items is a pair if there are two of them. -/
  holds : ∀ (v : Value) pass cursors parts after, v.pass? = some pass →
    (v.Unpacks cursors parts after ↔ pass = .ofList [parts.1, parts.2] ∧ after = cursors)
  bare : ∀ (v : Value) cursors parts after, v.isIterable = false → ¬ v.Unpacks cursors parts after
  /-- What is no pair is reported with its axis. -/
  reported : ∀ axis form, (Cause.malformedPair axis form).diagnostic.kind = .invalidShape ∧
    (Cause.malformedPair axis form).diagnostic.data = [(.plain "axis", .count axis)]
  /-- A cursor keeps the items after the one that is no pair. -/
  untouched : ∀ kind place (pass : Pass) (run last : Run) axis form,
    Apart place (some (.own pass)) run.cursors → (∀ item ∈ pass.items, item.Avoids place) →
    ofPairs (.cursor kind place) run = (.error (.rejected (.malformedPair axis form)), last) →
    last.cursors[place]? = some (.own ⟨pass.items.drop (axis + 1), pass.fault⟩)
  /-- Of pairs the first dimension that does not fit is refused, whatever the tags. -/
  dimensionsFirst : ∀ (before : List (Value × Value)) pair later failure run outcome,
    (∀ p ∈ before, ∃ d, Fits p.1 d) → Misfit before.length pair.1 failure →
    Refused ((before ++ pair :: later).map Prod.fst)
      (.tuple ((before ++ pair :: later).map Prod.snd)) run failure outcome →
    ofArguments [.tuple ((before ++ pair :: later).map Prod.fst)]
      (.tuple ((before ++ pair :: later).map Prod.snd)) run = outcome
  /-- The dimension of a lone pair is not taken for a sequence of dimensions. -/
  alone : ∀ v pair x t run outcome, v.pass? = some (.ofList [pair]) →
    pair.pass? = some (.ofList [x, t]) → x.integer? = none → (∀ b, x ≠ .bool b) →
    Refused [x] (.tuple [t]) run (.rejected (.nonIntegerDimension 0 x.typeName)) outcome →
    ofPairs v run = outcome
  /-- There are always as many tags as dimensions. -/
  lengths : ∀ v run rank tags last,
    ofPairs v run ≠ (.error (.rejected (.unequalLengths rank tags)), last)

/-- **What is made of arbitrary items.** -/
theorem pairsExact : PairsExact where
  rules _ _ _ := ofPairs_iff_readOff
  holds _ _ _ _ _ := Value.unpacks_iff_of_pass
  bare _ _ _ _ := Value.not_unpacks_of_not_iterable
  reported _ _ := ⟨rfl, rfl⟩
  untouched _ _ _ _ _ _ _ := ofPairs_cursor_malformed
  dimensionsFirst _ _ _ _ _ _ := ofArguments_of_misfit
  alone v pair x t run outcome lone two none notBool refused := by
    have unpacked : pair.Unpacks run.cursors (x, t) run.cursors :=
      (Value.unpacks_iff_of_pass two).mpr ⟨rfl, rfl⟩
    refine ReadOff.eq (.pairs (Eval.source_of_pass lone) (.cons rfl unpacked .nil) rfl ?_)
    have misfit : Misfit 0 x (.rejected (.nonIntegerDimension 0 x.typeName)) :=
      .nonInteger none notBool
    exact @ofArguments_of_misfit _ [] [] (x, t) _ _ nofun misfit refused
  lengths v run rank tags last failed := by
    rcases rejected_of_ofPairs failed with ⟨_, _, same⟩ | ⟨_, _, misfit⟩ | ⟨_, same⟩
    · cases same
    · cases misfit
    · cases same

/-- A text of two letters is a pair, so it is the number after it that is refused, although a letter
is no dimension. -/
theorem pairsExact_text : ofPairs (.list [.plain "ab", .int 3]) ⟨.lenient, [], [], []⟩
    = (.error (.rejected (.malformedPair 1 "3")),
      ⟨.lenient, [], [⟨.shape, "rejected axis pair 3 at axis 1"⟩], []⟩) := by
  have text : (Value.plain "ab").Unpacks [] (.plain "a", .plain "b") [] :=
    (pairsExact.holds _ _ _ _ _ rfl).mpr ⟨rfl, rfl⟩
  have reported : Eval.Reported .shape (pairText 1 (.int 3)) ⟨.lenient, [], [], []⟩ none
      ⟨.lenient, [], [pairRecord "3" 1], []⟩ := .recorded nofun rfl
  have refused : NoPair 1 (.int 3) ⟨.lenient, [], [], []⟩ (.rejected (.malformedPair 1 "3"))
      ⟨.lenient, [], [pairRecord "3" 1], []⟩ := .refused reported rfl
  refine (pairsExact.rules _ _ _).mpr ?_
  exact .malformed rfl (.cons rfl text .nil) rfl (fun _ _ => pairsExact.bare _ _ _ _ rfl) refused

end Shape

end TensorShape
