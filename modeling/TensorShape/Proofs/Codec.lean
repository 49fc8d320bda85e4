import TensorShape.Proofs.Drawing
import TensorShape.Proofs.Revalidation

/-! # Reading and spelling undo each other

A spelling is read letter by letter and a layout is spelled tag by tag, by two functions
that share no table.  `Layout.Reads` and `Layout.Refuses` say what reading a text comes
to, and one of the two holds of every text (`reads_or_refuses`).  Both are facts about
the letters alone (`reads_iff`, `refuses_iff`), which is why reading a joined text is
reading its parts: the split at the first stray letter of one part is a split of the
whole.

What is spelled is whatever a value holds, tags or not.  A step that looks at one item
and leaves no traces does to the items drawn what it does to a list of them
(`eachItem_ofExcept`), so spelling fails exactly where an item is no tag, even if it is
the letter of one. -/
namespace TensorShape

/-! ## Steps that leave no traces -/

namespace Eval

variable {β : Type} (g : Value → Except Failure β)

/-- Items drawn to the end are dealt with one by one, like those of a list. -/
theorem drain_ofExcept {bound position : Nat} {source : Source} {run after : Run}
    {held : List Value}
    (h : drain (fun _ item => pure item) bound position source run = (.ok held, after)) :
    ∃ last, drain (fun _ item => ofExcept (g item)) bound position source run
        = (held.mapM g, last) ∧ ∀ bs, held.mapM g = .ok bs → last = after := by
  induction bound generalizing position source run held after with
  | zero =>
    cases h
    exact ⟨run, rfl, fun _ _ => rfl⟩
  | succ bound ih =>
    rw [drain_apply] at h ⊢
    match drawn : Draw.next source run.cursors with
    | (.error fault, between) => rw [drawn] at h; cases h
    | (.ok none, between) =>
      rw [drawn] at h
      cases h
      exact ⟨_, rfl, fun _ _ => rfl⟩
    | (.ok (some (item, rest)), between) =>
      simp only [drawn, pure_bind] at h ⊢
      rw [bind_apply] at h
      match others : drain (fun _ item => pure item) bound (position + 1) rest
          { run with cursors := between } with
      | (.error failure, last) => rw [others] at h; cases h
      | (.ok items, last) =>
        rw [others] at h
        cases h
        obtain ⟨last', same, ends⟩ := ih others
        rw [List.mapM_cons]
        match g item with
        | .error failure => exact ⟨_, rfl, nofun⟩
        | .ok b =>
          change ∃ last, (drain _ _ _ _ >>= fun bs => pure (b :: bs)) _ = _ ∧ _
          rw [bind_apply, same]
          match mapped : items.mapM g with
          | .error failure => exact ⟨last', rfl, nofun⟩
          | .ok bs => exact ⟨last', rfl, fun _ _ => ends bs mapped⟩

/-- What is done with the items of a value one by one is done with the list of them. -/
theorem eachItem_ofExcept {v : Value} {run after : Run} {held : List Value}
    (h : items v run = (.ok held, after)) :
    ∃ last, eachItem (fun _ item => ofExcept (g item)) v run = (held.mapM g, last) ∧
      ∀ bs, held.mapM g = .ok bs → last = after := by
  match found : v.source with
  | .error fault =>
    rw [items, eachItem_of_source_error _ found] at h
    cases h
  | .ok source =>
    rw [items, eachItem_eq_drain _ found] at h
    rw [eachItem_eq_drain _ found]
    exact drain_ofExcept g h

end Eval

namespace Layout

variable {s t : Text} {a b layout : Layout} {stray : StrayLetter}

/-! ## Reading -/

/-- The letters that spell tags. -/
def alphabet : List Char := ['N', 'C', 'D', 'H', 'W', 'T', '?']

theorem exists_char_iff {c : Char} : (∃ tag, Tag.char tag = c) ↔ c ∈ alphabet := by
  constructor
  · rintro ⟨tag, rfl⟩
    cases tag <;> decide
  · intro held
    have letters : alphabet = Tag.all.map Tag.char := rfl
    rw [letters] at held
    obtain ⟨tag, -, same⟩ := List.mem_map.mp held
    exact ⟨tag, same⟩

/-- The record of a letter that spells no tag. -/
def letterRecord (c : Char) : LogRecord :=
  ⟨.layout, "rejected layout character " ++ Quoted.quote c.toString⟩

/-- Reading a text gives a layout and leaves no traces. -/
def Reads (text : Text) (layout : Layout) : Prop := ofSpelling (.text text) = pure layout

/-- Reading a text is refused because of a letter, and that letter is logged where there is a
log. -/
def Refuses (text : Text) (stray : StrayLetter) : Prop :=
  ∀ run, ofSpelling (.text text) run = (.error (.rejected (.strayLetter text stray)),
    run.logged [letterRecord stray.char])

theorem reads_of_decode (h : decode s.content.toList = .ok layout) : Reads s layout := by
  rw [Reads, ofSpelling, ofText, h]

theorem refuses_of_decode (h : decode s.content.toList = .error stray) : Refuses s stray := by
  intro run
  rw [ofSpelling, ofText, h]
  exact bind_of_ok (Eval.report_pure _ _ run) _

theorem reads_iff : Reads s layout ↔ decode s.content.toList = .ok layout := by
  refine ⟨fun h => ?_, reads_of_decode⟩
  have given := congrFun h ⟨.off, [], [], []⟩
  match e : decode s.content.toList with
  | .ok read =>
    rw [reads_of_decode e] at given
    cases given
    rfl
  | .error stray =>
    rw [refuses_of_decode e] at given
    cases given

theorem refuses_iff : Refuses s stray ↔ decode s.content.toList = .error stray := by
  refine ⟨fun h => ?_, refuses_of_decode⟩
  have refused := h ⟨.off, [], [], []⟩
  match e : decode s.content.toList with
  | .ok read =>
    rw [reads_of_decode e] at refused
    cases refused
  | .error found =>
    rw [refuses_of_decode e] at refused
    cases refused
    rfl

theorem reads_or_refuses (s : Text) : (∃ layout, Reads s layout) ∨ ∃ stray, Refuses s stray := by
  match e : decode s.content.toList with
  | .ok layout => exact .inl ⟨layout, reads_of_decode e⟩
  | .error stray => exact .inr ⟨stray, refuses_of_decode e⟩

/-- A text that is read holds the letters of the layout, and no others. -/
theorem Reads.letters (h : Reads s layout) : layout.letters = s.content.toList :=
  decode_eq_ok_iff.mp (reads_iff.mp h)

theorem Reads.length (h : Reads s layout) : layout.length = s.content.length := by
  rw [← String.length_toList, ← h.letters, Layout.letters, List.length_map]

theorem Reads.encode (h : Reads s layout) : layout.encode = s.content := by
  rw [Layout.encode, h.letters, String.ofList_toList]

theorem exists_reads_iff :
    (∃ layout, Reads s layout) ↔ ∀ c ∈ s.content.toList, c ∈ alphabet := by
  constructor
  · rintro ⟨layout, read⟩ c held
    rw [← read.letters] at held
    obtain ⟨tag, -, same⟩ := List.mem_map.mp held
    exact exists_char_iff.mp ⟨tag, same⟩
  · intro readable
    refine (reads_or_refuses s).resolve_right ?_
    rintro ⟨stray, refused⟩
    obtain ⟨before, after, split, -, -, unreadable⟩ :=
      decode_eq_error_iff.mp (refuses_iff.mp refused)
    have held : stray.char ∈ s.content.toList := by simp [split]
    obtain ⟨tag, same⟩ := exists_char_iff.mpr (readable _ held)
    exact unreadable tag same

/-- The letter that a text is refused for is the first one that spells no tag. -/
theorem Refuses.least (h : Refuses s stray) :
    s.content.toList[stray.position]? = some stray.char ∧ stray.char ∉ alphabet ∧
      ∀ i < stray.position, ∀ c, s.content.toList[i]? = some c → c ∈ alphabet := by
  obtain ⟨before, after, split, position, readable, unreadable⟩ :=
    decode_eq_error_iff.mp (refuses_iff.mp h)
  rw [split, ← position]
  refine ⟨by simp, fun held => ?_, fun i earlier c found => ?_⟩
  · obtain ⟨tag, same⟩ := exists_char_iff.mpr held
    exact unreadable tag same
  · rw [List.getElem?_append_left earlier] at found
    exact exists_char_iff.mp (readable c (List.mem_of_getElem? found))

/-! ## Joined texts -/

/-- The text of one followed by that of another. -/
def joined (s t : Text) : Text := .plain (s.content ++ t.content)

theorem toList_content_joined (s t : Text) :
    (joined s t).content.toList = s.content.toList ++ t.content.toList := String.toList_append

theorem Reads.joined (hs : Reads s a) (ht : Reads t b) : Reads (Layout.joined s t) (a ++ b) := by
  refine reads_iff.mpr (decode_eq_ok_iff.mpr ?_)
  rw [toList_content_joined, ← hs.letters, ← ht.letters]
  exact List.map_append

/-- All of a text that is read stands before the stray letter of what follows. -/
theorem Reads.refuses_joined (hs : Reads s a) (ht : Refuses t stray) :
    Refuses (Layout.joined s t) ⟨s.content.length + stray.position, stray.char⟩ := by
  obtain ⟨before, after, split, position, readable, unreadable⟩ :=
    decode_eq_error_iff.mp (refuses_iff.mp ht)
  refine refuses_iff.mpr (decode_eq_error_iff.mpr
    ⟨s.content.toList ++ before, after, ?_, ?_, fun c held => ?_, unreadable⟩)
  · rw [toList_content_joined, split, List.append_assoc]
  · rw [List.length_append, position, String.length_toList]
  · rcases List.mem_append.mp held with first | later
    · exact exists_char_iff.mpr (exists_reads_iff.mp ⟨a, hs⟩ c first)
    · exact readable c later

/-- What follows the stray letter of a text does not matter. -/
theorem Refuses.joined (hs : Refuses s stray) (t : Text) : Refuses (Layout.joined s t) stray := by
  obtain ⟨before, after, split, position, readable, unreadable⟩ :=
    decode_eq_error_iff.mp (refuses_iff.mp hs)
  refine refuses_iff.mpr (decode_eq_error_iff.mpr
    ⟨before, after ++ t.content.toList, ?_, position, readable, unreadable⟩)
  rw [toList_content_joined, split, List.append_assoc, List.cons_append]

/-! ## Spelling -/

/-- The tag that a value is. -/
def tagAmong : Value → Except Failure Tag
  | .text (.tag tag) => .ok tag
  | _ => .error (.misuse .notATag)

theorem tagAmong_of_ne {item : Value} (h : ∀ tag, item ≠ .tag tag) :
    tagAmong item = .error (.misuse .notATag) := by
  unfold tagAmong
  split
  · rename_i tag
    exact absurd rfl (h tag)
  · rfl

theorem tagOnly_eq : spell.tagOnly = fun _ item => Eval.ofExcept (tagAmong item) := by
  funext position item
  by_cases tagged : ∃ tag, item = .tag tag
  · obtain ⟨tag, rfl⟩ := tagged
    rfl
  · have untagged (tag : Tag) : item ≠ .tag tag := fun e => tagged ⟨tag, e⟩
    rw [tagAmong_of_ne untagged]
    unfold spell.tagOnly
    split
    · rename_i tag
      exact absurd rfl (untagged tag)
    · rfl

theorem mapM_tagAmong_tags (tags : Layout) : (tags.map .tag).mapM tagAmong = .ok tags := by
  induction tags with
  | nil => rfl
  | cons tag rest ih =>
    rw [List.map_cons, List.mapM_cons, ih]
    rfl

/-- A list is either one of tags, or is refused because of an item that is none. -/
theorem mapM_tagAmong (held : List Value) : (∃ tags : Layout, held = tags.map .tag) ∨
    (∃ item ∈ held, ∀ tag, item ≠ .tag tag) ∧
      held.mapM tagAmong = .error (.misuse .notATag) := by
  induction held with
  | nil => exact .inl ⟨[], rfl⟩
  | cons item rest ih =>
    by_cases tagged : ∃ tag, item = .tag tag
    · obtain ⟨tag, rfl⟩ := tagged
      rcases ih with ⟨tags, rfl⟩ | ⟨⟨other, held, untagged⟩, refused⟩
      · exact .inl ⟨tag :: tags, rfl⟩
      · refine .inr ⟨⟨other, List.mem_cons_of_mem _ held, untagged⟩, ?_⟩
        rw [List.mapM_cons, refused]
        rfl
    · have untagged (tag : Tag) : item ≠ .tag tag := fun e => tagged ⟨tag, e⟩
      refine .inr ⟨⟨item, List.mem_cons_self, untagged⟩, ?_⟩
      rw [List.mapM_cons, tagAmong_of_ne untagged]
      rfl

variable {v : Value} {held : List Value} {run after : Run}

/-- The tags that a value gives are spelled. -/
theorem spell_of_tags (h : Eval.items v run = (.ok (layout.map .tag), after)) :
    spell v run = (.ok (encode layout), after) := by
  obtain ⟨last, drawn, ends⟩ := Eval.eachItem_ofExcept tagAmong h
  rw [mapM_tagAmong_tags] at drawn ends
  rw [spell, tagOnly_eq, bind_of_ok drawn, ends layout rfl]
  rfl

theorem spell_of_untagged (h : Eval.items v run = (.ok held, after))
    (refused : held.mapM tagAmong = .error (.misuse .notATag)) :
    (spell v run).1 = .error (.misuse .notATag) := by
  obtain ⟨last, drawn, -⟩ := Eval.eachItem_ofExcept tagAmong h
  rw [refused] at drawn
  rw [spell, tagOnly_eq, bind_of_error drawn]

/-- Spelling fails exactly if some item is no tag. -/
theorem spell_fails_iff (h : Eval.items v run = (.ok held, after)) :
    (spell v run).1 = .error (.misuse .notATag) ↔ ∃ item ∈ held, ∀ tag, item ≠ .tag tag := by
  rcases mapM_tagAmong held with ⟨tags, rfl⟩ | ⟨untagged, refused⟩
  · refine iff_of_false (fun failed => ?_) ?_
    · rw [spell_of_tags h] at failed
      cases failed
    · rintro ⟨item, held, untagged⟩
      obtain ⟨tag, -, same⟩ := List.mem_map.mp held
      exact untagged tag same.symm
  · exact iff_of_true (spell_of_untagged h refused) untagged

/-! ## Both directions -/

theorem reads_encode (layout : Layout) : Reads (.plain (encode layout)) layout :=
  reads_iff.mpr (decode_encode layout)

/-- What the two directions of the codec promise each other, and what they refuse. -/
structure ExactCodec : Prop where
  /-- Spelling the tags that a value gives and reading the spelling gives the tags. -/
  roundTrip : ∀ {v : Value} {layout : Layout} {run after : Run},
    Eval.items v run = (.ok (layout.map .tag), after) →
    (do ofSpelling (.plain (← spell v)) : Eval Layout) run = (.ok layout, after)
  /-- A text is read, without a trace, or it is refused and the refusal is logged. -/
  settled : ∀ s, (∃ layout, Reads s layout) ∨ ∃ stray, Refuses s stray
  accepted : ∀ s, (∃ layout, Reads s layout) ↔ ∀ c ∈ s.content.toList, c ∈ alphabet
  length : ∀ {s layout}, Reads s layout → layout.length = s.content.length
  spelled : ∀ {s layout}, Reads s layout →
    spell (.tuple (layout.map .tag)) = pure s.content
  least : ∀ {s stray}, Refuses s stray →
    s.content.toList[stray.position]? = some stray.char ∧ stray.char ∉ alphabet ∧
      ∀ i < stray.position, ∀ c, s.content.toList[i]? = some c → c ∈ alphabet
  /-- The diagnostic of a refusal holds the letter, its position and the whole text. -/
  reported : ∀ (s : Text) (stray : StrayLetter),
    (Cause.strayLetter s stray).diagnostic.kind = .invalidLayout ∧
      (Cause.strayLetter s stray).diagnostic.data = [(.plain "layout", .text s),
        (.plain "char", .plain stray.char.toString), (.plain "position", .count stray.position)]
  joined : ∀ {s t a b}, Reads s a → Reads t b → Reads (joined s t) (a ++ b)
  joinedLater : ∀ {s t a stray}, Reads s a → Refuses t stray →
    Refuses (Layout.joined s t) ⟨s.content.length + stray.position, stray.char⟩
  joinedEarlier : ∀ {s stray}, Refuses s stray → ∀ t, Refuses (Layout.joined s t) stray
  /-- A value whose items can be gone through is spelled unless one of them is no tag. -/
  misused : ∀ {v : Value} {held : List Value} {run after : Run},
    Eval.items v run = (.ok held, after) →
    ((spell v run).1 = .error (.misuse .notATag) ↔ ∃ item ∈ held, ∀ tag, item ≠ .tag tag)
  spells : ∀ {v : Value} {layout : Layout} {run after : Run},
    Eval.items v run = (.ok (layout.map .tag), after) →
    spell v run = (.ok (encode layout), after)

/-- **Reading and spelling undo each other**, and of what is neither spelling nor layout each
refuses exactly that. -/
theorem exactCodec : ExactCodec where
  roundTrip {v layout run after} h := by
    rw [bind_of_ok (spell_of_tags h)]
    exact congrFun (reads_encode layout) after
  settled := reads_or_refuses
  accepted _ := exists_reads_iff
  length read := read.length
  spelled {s layout} read := by
    have held : (Value.tuple (layout.map .tag)).pass? = some (.ofList (layout.map .tag)) := rfl
    funext run
    rw [spell_of_tags (congrFun (Eval.items_of_pass held) run), read.encode]
    rfl
  least := Refuses.least
  reported _ _ := ⟨rfl, rfl⟩
  joined := Reads.joined
  joinedLater := Reads.refuses_joined
  joinedEarlier := Refuses.joined
  misused := spell_fails_iff
  spells := spell_of_tags

/-- The position of a stray letter is counted from the start of the whole text, and the letter of a
tag is not the tag. -/
theorem exactCodec_stray :
    (Reads (.plain "NC") [.batch, .channel] ∧ Refuses (.plain "?xH") ⟨1, 'x'⟩ ∧
      Refuses (joined (.plain "NC") (.plain "?xH")) ⟨3, 'x'⟩) ∧
    (spell (.list [.tag .width, .plain "W"]) ⟨.off, [], [], []⟩).1 = .error (.misuse .notATag) := by
  have first : Reads (.plain "NC") [.batch, .channel] := reads_of_decode rfl
  have second : Refuses (.plain "?xH") ⟨1, 'x'⟩ := refuses_of_decode rfl
  have held : Eval.items (.list [.tag .width, .plain "W"]) ⟨.off, [], [], []⟩
      = (.ok [.tag .width, .plain "W"], ⟨.off, [], [], []⟩) := rfl
  refine ⟨⟨first, second, exactCodec.joinedLater first second⟩, ?_⟩
  exact (exactCodec.misused held).mpr ⟨.plain "W", by simp, nofun⟩

end Layout
end TensorShape
