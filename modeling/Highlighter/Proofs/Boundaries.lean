import Highlighter.Text

/-!
# Character boundaries

The cuts of a text at a position counted in bytes.  A position is a character
boundary when it is the size of a beginning of the text.  At a boundary the total
cuts `takeBytes` and `dropBytes` are exact, and the exact cuts `takeExact?`,
`dropExact?` and `slice?` succeed.

`append_cases_of_size_le` compares two ways to cut one text by the sizes of their
first parts.  All facts about positions of tokens and of captured groups go
through it.
-/

namespace Highlighter.Text

@[simp] theorem size_nil : size [] = 0 := rfl

@[simp] theorem size_cons (c : Char) (t : Text) : size (c :: t) = c.utf8Size + size t := rfl

theorem size_pos {t : Text} (h : t ≠ []) : 0 < t.size := by
  cases t with
  | nil => exact absurd rfl h
  | cons c rest =>
    have := c.utf8Size_pos
    rw [size_cons]
    omega

theorem size_eq_zero_iff {t : Text} : t.size = 0 ↔ t = [] := by
  cases t with
  | nil => simp
  | cons c rest =>
    have := size_pos (List.cons_ne_nil c rest)
    constructor
    · omega
    · simp

/-- Of two ways to cut a text, the one whose first part has fewer bytes cuts earlier. -/
theorem append_cases_of_size_le {a b c d : Text} (h : a ++ b = c ++ d) (hs : a.size ≤ c.size) :
    ∃ x, c = a ++ x ∧ b = x ++ d := by
  rcases List.append_eq_append_iff.mp h with ⟨x, hc, hb⟩ | ⟨x, ha, hd⟩
  · exact ⟨x, hc, hb⟩
  · have hx : x = [] := by
      rw [ha, size_append] at hs
      exact size_eq_zero_iff.mp (by omega)
    subst hx
    exact ⟨[], by simpa using ha.symm, by simpa using hd.symm⟩

/-- Two cuts of a text whose first parts have the same size are the same cut. -/
theorem append_inj_of_size_eq {a b c d : Text} (h : a ++ b = c ++ d) (hs : a.size = c.size) :
    a = c ∧ b = d := by
  obtain ⟨x, hc, hb⟩ := append_cases_of_size_le h (Nat.le_of_eq hs)
  have hx : x = [] := by
    rw [hc, size_append] at hs
    exact size_eq_zero_iff.mp (by omega)
  subst hx
  exact ⟨by simpa using hc.symm, by simpa using hb⟩

/-! ## Cuts at a boundary -/

@[simp] theorem takeBytes_size_append (s t : Text) : takeBytes s.size (s ++ t) = s := by
  induction s with
  | nil =>
    cases t with
    | nil => rfl
    | cons c rest =>
      have := c.utf8Size_pos
      simp only [List.nil_append, size_nil, takeBytes]
      rw [if_neg (by omega)]
  | cons c rest ih =>
    simp only [List.cons_append, size_cons, takeBytes]
    rw [if_pos (by omega), Nat.add_sub_cancel_left, ih]

@[simp] theorem dropBytes_size_append (s t : Text) : dropBytes s.size (s ++ t) = t := by
  have h := takeBytes_append_dropBytes s.size (s ++ t)
  rw [takeBytes_size_append] at h
  exact List.append_cancel_left h

theorem takeExact?_size_append (s t : Text) : takeExact? s.size (s ++ t) = some s := by
  induction s with
  | nil => simp [takeExact?]
  | cons c rest ih =>
    obtain ⟨n, hn⟩ : ∃ n, size (c :: rest) = n + 1 :=
      ⟨size (c :: rest) - 1, by have := size_pos (t := c :: rest) (by simp); omega⟩
    have hsub : n + 1 - c.utf8Size = size rest := by rw [← hn, size_cons]; omega
    rw [hn, List.cons_append, takeExact?, if_pos (by rw [← hn, size_cons]; omega), hsub, ih]
    rfl

theorem dropExact?_size_append (s t : Text) : dropExact? s.size (s ++ t) = some t := by
  induction s with
  | nil => simp [dropExact?]
  | cons c rest ih =>
    obtain ⟨n, hn⟩ : ∃ n, size (c :: rest) = n + 1 :=
      ⟨size (c :: rest) - 1, by have := size_pos (t := c :: rest) (by simp); omega⟩
    have hsub : n + 1 - c.utf8Size = size rest := by rw [← hn, size_cons]; omega
    rw [hn, List.cons_append, dropExact?, if_pos (by rw [← hn, size_cons]; omega), hsub, ih]

/-- An exact cut gives the beginning of the text that has the size. -/
theorem takeExact?_eq_some_iff {n : Nat} {t u : Text} :
    takeExact? n t = some u ↔ ∃ rest, t = u ++ rest ∧ n = u.size := by
  constructor
  · intro h
    induction t generalizing n u with
    | nil =>
      cases n with
      | zero =>
        cases h
        exact ⟨[], rfl, rfl⟩
      | succ n => cases h
    | cons c t ih =>
      cases n with
      | zero =>
        cases h
        exact ⟨c :: t, rfl, rfl⟩
      | succ n =>
        rw [takeExact?] at h
        split at h
        · next hle =>
          obtain ⟨v, hv, rfl⟩ := Option.map_eq_some_iff.mp h
          obtain ⟨rest, rfl, hsize⟩ := ih hv
          refine ⟨rest, rfl, ?_⟩
          rw [size_cons]
          omega
        · cases h
  · rintro ⟨rest, rfl, rfl⟩
    exact takeExact?_size_append u rest

/-- An exact cut leaves what stands behind the beginning that has the size. -/
theorem dropExact?_eq_some_iff {n : Nat} {t rest : Text} :
    dropExact? n t = some rest ↔ ∃ u, t = u ++ rest ∧ n = u.size := by
  constructor
  · intro h
    induction t generalizing n with
    | nil =>
      cases n with
      | zero =>
        cases h
        exact ⟨[], rfl, rfl⟩
      | succ n => cases h
    | cons c t ih =>
      cases n with
      | zero =>
        cases h
        exact ⟨[], rfl, rfl⟩
      | succ n =>
        rw [dropExact?] at h
        split at h
        · next hle =>
          obtain ⟨u, rfl, hsize⟩ := ih h
          refine ⟨c :: u, rfl, ?_⟩
          rw [size_cons]
          omega
        · cases h
  · rintro ⟨u, rfl, rfl⟩
    exact dropExact?_size_append u rest

/-- A part of a text is its slice between the positions where the part starts and ends. -/
theorem slice?_append (a b c : Text) :
    slice? a.size (a.size + b.size) (a ++ (b ++ c)) = some b := by
  rw [slice?, if_neg (by omega), dropExact?_size_append, Option.bind_some,
    Nat.add_sub_cancel_left, takeExact?_size_append]

/-- There is no slice but the parts of a text. -/
theorem slice?_eq_some_iff {start stop : Nat} {t u : Text} :
    slice? start stop t = some u ↔
      ∃ before after, t = before ++ (u ++ after) ∧ start = before.size ∧
        stop = start + u.size := by
  constructor
  · intro h
    rw [slice?] at h
    split at h
    · cases h
    · next hle =>
      obtain ⟨rest, hdrop, htake⟩ := Option.bind_eq_some_iff.mp h
      obtain ⟨before, rfl, hstart⟩ := dropExact?_eq_some_iff.mp hdrop
      obtain ⟨after, rfl, hsize⟩ := takeExact?_eq_some_iff.mp htake
      exact ⟨before, after, rfl, hstart, by omega⟩
  · rintro ⟨before, after, rfl, rfl, rfl⟩
    exact slice?_append before u after

end Highlighter.Text
