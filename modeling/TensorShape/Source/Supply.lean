import TensorShape.Source

/-! # What drawing uses up

An item that a source gives is taken away from what the source and the cursors
hold (`held_next`), so no source gives more than that.  A source that draws from
cursors takes an item from them for each that it gives (`total_next`), so the items
of the cursors bound what such sources give, and what the sources inside the items
give, and so on.  The first bound is that of `Eval.drain`, the second that of
`Value.writeDrawn`. -/
namespace TensorShape

/-- Whether a source draws from cursors. -/
def Source.isLive : Source → Bool
  | own _ => false
  | shared _ => true
  | zip first second => first.isLive || second.isLive

namespace Draw

/-- The number of items that some cursors hold. -/
def total (cursors : List Source) : Nat := (cursors.map Source.held).foldr (· + ·) 0

theorem supply_run (cursors : List Source) : supply cursors = (.ok (total cursors), cursors) := rfl

/-- Putting a source in the place of another exchanges what the two hold. -/
theorem total_set (cursors : List Source) (place : Nat) (source : Source) :
    total (cursors.set place source) + (cursors.getD place .ended).held
      ≤ total cursors + source.held := by
  induction cursors generalizing place with
  | nil => simp [total, Source.held, Source.ended, Pass.ended, Pass.ofList]
  | cons c rest ih =>
    cases place with
    | zero => simp [total]; omega
    | succ place =>
      have := ih place
      simp [total] at this ⊢
      omega

/-- A computation in two steps that succeeds does so in both. -/
theorem bind_eq_ok {work : Draw α} {f : α → Draw β} {cursors after : List Source} {b : β}
    (h : (work >>= f) cursors = (.ok b, after)) :
    ∃ a between, work cursors = (.ok a, between) ∧ f a between = (.ok b, after) := by
  have unfolded : (work >>= f) cursors
      = (ExceptT.bindCont f (work cursors).1 : StateM (List Source) _) (work cursors).2 := rfl
  rw [unfolded] at h
  match e : work cursors with
  | (.ok a, between) => rw [e] at h; exact ⟨a, between, rfl, h⟩
  | (.error fault, between) => rw [e] at h; cases h

/-- Each item drawn at a place is taken away from the cursors. -/
def UsesUp (advance : Nat → Draw (Option Value)) : Prop :=
  ∀ {place cursors item after}, advance place cursors = (.ok (some item), after) →
    total after < total cursors

variable {advance : Nat → Draw (Option Value)} {source rest : Source}
  {cursors after : List Source} {item : Value}

/-- A pairing gives a pair only if it draws an item from each of its sources. -/
theorem nextWith_zip_eq_some {first second : Source}
    (h : (Source.zip first second).nextWith advance cursors = (.ok (some (item, rest)), after)) :
    ∃ x first' between y second', rest = .zip first' second' ∧
      first.nextWith advance cursors = (.ok (some (x, first')), between) ∧
      second.nextWith advance between = (.ok (some (y, second')), after) := by
  obtain ⟨a, between, drawn, h⟩ := bind_eq_ok h
  cases a with
  | none =>
    obtain ⟨b, last, _, h⟩ := bind_eq_ok h
    cases b <;> cases h
  | some step =>
    obtain ⟨b, last, drawn', h⟩ := bind_eq_ok h
    cases b with
    | none => cases h
    | some step' => cases h; exact ⟨_, _, _, _, _, rfl, drawn, drawn'⟩

/-- `held_next`, for any way to draw from cursors that uses them up. -/
theorem held_nextWith (usesUp : UsesUp advance)
    (h : source.nextWith advance cursors = (.ok (some (item, rest)), after)) :
    rest.held + total after < source.held + total cursors := by
  induction source generalizing cursors after item rest with
  | own pass =>
    obtain ⟨items, fault⟩ := pass
    cases items with
    | nil => cases fault <;> cases h
    | cons x xs => cases h; simp [Source.held]
  | shared place =>
    obtain ⟨a, between, drawn, h⟩ := bind_eq_ok h
    cases a with
    | none => cases h
    | some x => cases h; simpa [Source.held] using usesUp drawn
  | zip first second ihFirst ihSecond =>
    obtain ⟨_, _, _, _, _, rfl, drawn, drawn'⟩ := nextWith_zip_eq_some h
    have := ihFirst drawn
    have := ihSecond drawn'
    simp only [Source.held]
    omega

/-- `total_next`, for any way to draw from cursors that uses them up. -/
theorem total_nextWith (usesUp : UsesUp advance)
    (h : source.nextWith advance cursors = (.ok (some (item, rest)), after)) :
    rest.isLive = source.isLive ∧ total after + source.isLive.toNat ≤ total cursors := by
  induction source generalizing cursors after item rest with
  | own pass =>
    obtain ⟨items, fault⟩ := pass
    cases items with
    | nil => cases fault <;> cases h
    | cons x xs => cases h; simp [Source.isLive]
  | shared place =>
    obtain ⟨a, between, drawn, h⟩ := bind_eq_ok h
    cases a with
    | none => cases h
    | some x => cases h; exact ⟨rfl, usesUp drawn⟩
  | zip first second ihFirst ihSecond =>
    obtain ⟨_, _, _, _, _, rfl, drawn, drawn'⟩ := nextWith_zip_eq_some h
    have := ihFirst drawn
    have := ihSecond drawn'
    refine ⟨by simp [Source.isLive, *], ?_⟩
    cases e : first.isLive <;> cases e' : second.isLive <;> simp_all [Source.isLive] <;> omega

/-- What a cursor gives it has drawn from its own source, which comes out the poorer by it. -/
theorem usesUp_advanceWithin (depth : Nat) : UsesUp (advanceWithin depth) := by
  induction depth with
  | zero => intro place cursors item after h; cases h
  | succ depth ih =>
    intro place cursors item after h
    obtain ⟨a, between, drawn, h⟩ := @bind_eq_ok _ _
      ((cursors.getD place .ended).nextWith (advanceWithin depth)) _
      (cursors.set place .ended) _ _ h
    cases a with
    | none => cases h
    | some step =>
      cases h
      have := held_nextWith ih drawn
      have := total_set cursors place .ended
      have := total_set between place step.2
      have : Source.ended.held = 0 := rfl
      change total (between.set place step.2) < total cursors
      omega

theorem usesUp_advance : UsesUp Draw.advance := fun h => usesUp_advanceWithin _ h

/-- An item that a source gives is taken from the source or from a cursor. -/
theorem held_next (h : next source cursors = (.ok (some (item, rest)), after)) :
    rest.held + total after < source.held + total cursors :=
  held_nextWith usesUp_advance h

/-- A source that draws from cursors takes an item from them for each that it gives. -/
theorem total_next (live : source.isLive)
    (h : next source cursors = (.ok (some (item, rest)), after)) :
    rest.isLive ∧ total after < total cursors := by
  obtain ⟨same, less⟩ := total_nextWith usesUp_advance h
  rw [live] at same less
  exact ⟨same, less⟩

end Draw
end TensorShape
