import Conform.Path
/-!
# Rendering — when a path renders as its keys join

`render` puts a dot between any two segments, while `joinKey` puts one behind a
text that is not empty. The two part at a path that is not the root but has the
empty text: one step into a field without a name. What the keys join to is the
path without the nameless fields in front.
-/


namespace Conform

variable {p : Path} {s : Segment}

/-- Joining goes on from a text as from a path that has it, if the text is not empty. -/
theorem foldl_joinKey {text : String} (htext : text ≠ "") (keys : List String) :
    keys.foldl joinKey text = ".".intercalate (text :: keys) := by
  induction keys generalizing text with
  | nil => rw [List.foldl_nil, String.intercalate_singleton]
  | cons key rest ih =>
    have hjoin : joinKey text key = text ++ "." ++ key := by
      unfold joinKey
      rw [if_neg (mt String.isEmpty_iff.1 htext)]
    have hjoined : text ++ "." ++ key ≠ "" := by
      intro h
      exact htext (String.append_eq_empty_iff.1 (String.append_eq_empty_iff.1 h).1).1
    rw [List.foldl_cons, hjoin, ih hjoined, String.intercalate_cons_append,
      String.intercalate_cons_cons]

theorem Segment.render_eq_empty_iff : s.render = "" ↔ s = .field "" := by
  cases s with
  | field name =>
    rw [Segment.field.injEq]
    exact Iff.rfl
  | index position => exact iff_of_false Nat.repr_ne_empty Segment.noConfusion

namespace Path

/-- The text of a path from joining its keys one by one. -/
def joined (p : Path) : String := (p.segments.map Segment.render).foldl joinKey ""

/-- The path without the fields in front that have no name. -/
def named (p : Path) : Path := ⟨p.segments.dropWhile (· = .field "")⟩

variable {first second : Segment} {rest : List Segment}

theorem render_singleton (s : Segment) : render ⟨[s]⟩ = s.render := String.intercalate_singleton

theorem render_cons_cons :
    render ⟨first :: second :: rest⟩ = first.render ++ "." ++ render ⟨second :: rest⟩ :=
  String.intercalate_cons_cons

theorem render_push (hp : p ≠ root) (s : Segment) :
    (p.push s).render = p.render ++ "." ++ s.render := by
  have hsegments : p.segments.map Segment.render ≠ [] := by
    intro h
    exact hp (congrArg Path.mk (List.map_eq_nil_iff.1 h))
  have hkeys : (p.push s).segments.map Segment.render =
      p.segments.map Segment.render ++ [s.render] := List.map_append
  unfold render
  rw [hkeys, String.intercalate_append_of_ne_nil hsegments (List.cons_ne_nil _ _),
    String.intercalate_singleton]

/-- The empty text is that of the root and of one step into a field without a name. -/
theorem render_eq_empty_iff : p.render = "" ↔ p = root ∨ p = root.field "" := by
  obtain ⟨segments⟩ := p
  match segments with
  | [] => exact iff_of_true rfl (.inl rfl)
  | [s] =>
    rw [render_singleton, Segment.render_eq_empty_iff]
    simp [root, field, push]
  | first :: second :: rest =>
    rw [render_cons_cons]
    simp [root, field, push]

theorem named_nameless : named ⟨.field "" :: rest⟩ = named ⟨rest⟩ := by
  unfold named
  rw [List.dropWhile_cons_of_pos (by simp)]

theorem named_of_ne (hfirst : first ≠ .field "") : named ⟨first :: rest⟩ = ⟨first :: rest⟩ := by
  unfold named
  rw [List.dropWhile_cons_of_neg (by simpa using hfirst)]

/-- Joining loses the nameless fields in front and nothing else. -/
theorem joined_eq_render_named (p : Path) : p.joined = p.named.render := by
  obtain ⟨segments⟩ := p
  induction segments with
  | nil => rfl
  | cons first rest ih =>
    have hstep : joined ⟨first :: rest⟩ = (rest.map Segment.render).foldl joinKey first.render := rfl
    by_cases hfirst : first = .field ""
    · subst hfirst
      rw [named_nameless, ← ih, hstep]
      rfl
    · rw [named_of_ne hfirst, hstep, foldl_joinKey (mt Segment.render_eq_empty_iff.1 hfirst)]
      rfl

theorem length_joined_le (p : Path) : p.joined.length ≤ p.render.length := by
  obtain ⟨segments⟩ := p
  rw [joined_eq_render_named]
  induction segments with
  | nil => exact Nat.le_refl _
  | cons first rest ih =>
    by_cases hfirst : first = .field ""
    · subst hfirst
      refine Nat.le_trans (Nat.le_of_eq (congrArg (·.render.length) named_nameless)) ?_
      refine Nat.le_trans ih ?_
      cases rest with
      | nil => exact Nat.zero_le _
      | cons second rest =>
        rw [render_cons_cons, String.length_append]
        exact Nat.le_add_left _ _
    · exact Nat.le_of_eq (congrArg (·.render.length) (named_of_ne hfirst))

/-! ## The two ways to the text of a path -/

/-- Taking a step renders as its key joins, except from a nameless field of the root. -/
theorem render_push_eq_joinKey_iff :
    (p.push s).render = joinKey p.render s.render ↔ p ≠ root.field "" := by
  by_cases hroot : p = root
  · subst hroot
    exact iff_of_true (render_singleton s) (by decide)
  · rw [render_push hroot]
    unfold joinKey
    by_cases hempty : p.render = ""
    -- only one text has a dot, so they differ in length
    · have hp : p = root.field "" := (render_eq_empty_iff.1 hempty).resolve_left hroot
      rw [if_pos (String.isEmpty_iff.2 hempty)]
      refine iff_of_false ?_ fun hne => hne hp
      intro heq
      have hlength := congrArg String.length heq
      simp only [String.length_append] at hlength
      have hdot : ".".length = 1 := rfl
      omega
    · rw [if_neg (mt String.isEmpty_iff.1 hempty)]
      refine iff_of_true rfl ?_
      rintro rfl
      exact hempty rfl

theorem render_eq_joined_iff :
    p.render = p.joined ↔ p = root.field "" ∨ p.segments.head? ≠ some (.field "") := by
  obtain ⟨segments⟩ := p
  match segments with
  | [] => exact iff_of_true rfl (.inr (Option.some_ne_none _).symm)
  | first :: rest =>
    by_cases hfirst : first = .field ""
    · subst hfirst
      cases rest with
      | nil => exact iff_of_true rfl (.inl rfl)
      | cons second rest =>
        -- joining drops the first field with its dot, so its text is shorter
        have hle := length_joined_le ⟨second :: rest⟩
        refine iff_of_false ?_ (by simp [root, field, push])
        intro heq
        have hjoined : (Path.mk (.field "" :: second :: rest)).joined = joined ⟨second :: rest⟩ := rfl
        have hrender := congrArg String.length (heq.trans hjoined)
        rw [render_cons_cons, String.length_append, String.length_append] at hrender
        have hdot : ".".length = 1 := rfl
        omega
    · rw [joined_eq_render_named, named_of_ne hfirst]
      exact iff_of_true rfl (.inr (mt Option.some.inj hfirst))

/-- **When a path renders as its keys join.** Every step keeps the two together but one
from a nameless field of the root. So they part exactly at the paths that go on from
such a field, and there joining leaves the nameless fields in front away. -/
theorem render_and_join (p : Path) :
    (∀ s, (p.push s).render = joinKey p.render s.render ↔ p ≠ root.field "") ∧
      (p.render = p.joined ↔ p = root.field "" ∨ p.segments.head? ≠ some (.field "")) ∧
      p.joined = p.named.render :=
  ⟨fun _ => render_push_eq_joinKey_iff, render_eq_joined_iff, joined_eq_render_named p⟩

/-- Below a nameless field of the root a path begins with a dot, and its keys do not. -/
theorem nameless_begins_with_dot :
    ((root.field "").field "a").render = ".a" ∧ ((root.field "").field "a").joined = "a" ∧
      joinKey (root.field "").render (Segment.field "a").render = "a" := by
  decide

end Path

end Conform
