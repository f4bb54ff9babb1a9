import Highlighter.Proofs.Anchoring
import Highlighter.Proofs.Pattern.Locality

/-!
# Empty matches

A rule whose match has no extent would stall a scan, so a scan passes over it.  Building a
rule tries its pattern on a few probes and refuses it if it has an empty match on one.

For a regular expression without tests of a place the probes decide
(`Rule.zeroWidth_iff_of_assertionFree`).  In the pattern it is unfolded into, whatever the
repetitions and choices, what comes after a place does not count for a match that reads
nothing (`Regex.blind_unfold`).  So if there is an empty match on some text, there is one
on the empty text, which is a probe (`Pattern.stallsOn_nil`).
-/

namespace Highlighter

/-! ## Expressions without tests -/

namespace Regex

variable {c d : Option Char} {p : Pattern} {marked : Bool}

theorem blind_choice (hp : p.Blind c d) (next : Nat) : (choice marked p next).1.Blind c d := by
  cases marked with
  | false => exact hp
  | true => exact ⟨trivial, hp⟩

theorem blind_optional (greedy : Bool) (hp : p.Blind c d) : (optional greedy p).Blind c d := by
  cases greedy with
  | false => exact ⟨trivial, hp⟩
  | true => exact ⟨hp, trivial⟩

theorem blind_repeated (greedy : Bool) (hp : p.Blind c d) (next : Nat) :
    (repeated marked greedy p next).1.Blind c d := by
  cases marked with
  | true => exact ⟨trivial, hp, trivial⟩
  | false =>
    cases p with
    | one s => trivial
    | _ => exact hp

section Copies

variable {body : Unfolding Pattern} (hbody : ∀ next, (body next).1.Blind c d)
include hbody

theorem blind_copies : ∀ n next : Nat, (copies body n next).1.Blind c d
  | 0, _ => trivial
  | 1, next => hbody next
  | n + 2, next => ⟨hbody next, blind_copies (n + 1) _⟩

theorem blind_options (greedy : Bool) : ∀ n next : Nat,
    (options marked greedy body n next).1.Blind c d
  | 0, _ => trivial
  | n + 1, next => by
    refine blind_choice (blind_optional greedy ?_) _
    split
    · exact hbody next
    · exact ⟨hbody next, blind_options greedy n _⟩

end Copies

/-- What comes after a place does not count for an expression without tests. -/
theorem blind_unfold {r : Regex} (h : r.assertionFree = true) :
    ∀ (marked : Bool) (next : Nat), (r.unfold marked next).1.Blind c d := by
  induction r with
  | empty => exact fun _ _ => trivial
  | one s => exact fun _ _ => trivial
  | bracket s depth => exact fun _ _ => trivial
  | check a => cases h
  | group index r ih => exact fun marked next => ih h marked next
  | scope r ih => exact fun marked next => ih h marked next
  | seq r s ihr ihs =>
    obtain ⟨hr, hs⟩ := Bool.and_eq_true_iff.mp h
    exact fun marked next => ⟨ihr hr marked next, ihs hs marked _⟩
  | alt r s ihr ihs =>
    obtain ⟨hr, hs⟩ := Bool.and_eq_true_iff.mp h
    exact fun marked next => blind_choice (p := .alt _ _) ⟨ihr hr marked next, ihs hs marked _⟩ _
  | times min max greedy r ih =>
    intro marked next
    rcases Bool.or_eq_true_iff.mp h with hnone | hr
    · -- What is repeated no times is the empty expression, whatever is in it.
      obtain ⟨hmin, hmax⟩ := Bool.and_eq_true_iff.mp hnone
      obtain rfl := beq_iff_eq.mp hmin
      obtain rfl := beq_iff_eq.mp hmax
      trivial
    cases max with
    | some max =>
      rw [unfold]
      simp only []
      split
      · exact blind_copies (ih hr marked) _ _
      · split
        · exact blind_options (ih hr marked) _ _ _
        · exact ⟨blind_copies (ih hr marked) _ _, blind_options (ih hr marked) _ _ _⟩
    | none =>
      have hbody := ih hr (marked || r.nullable)
      have hlast : ∀ next, Pattern.Blind c d (.seq (unfold (marked || r.nullable) r next).1
          (repeated (marked || r.nullable) greedy (unfold (marked || r.nullable) r next).1
            (unfold (marked || r.nullable) r next).2).1) := fun next =>
        ⟨hbody next, blind_repeated greedy (hbody next) _⟩
      rw [unfold]
      simp only []
      split
      · exact blind_repeated greedy (hbody next) _
      · match min with
        | 0 => exact blind_choice (blind_optional greedy (hlast _)) _
        | 1 => exact hlast _
        | min + 2 => exact ⟨blind_copies hbody _ _, hlast _⟩

theorem blind_toPattern {r : Regex} (h : r.assertionFree = true) : r.toPattern.Blind c d :=
  blind_unfold h false 0

end Regex

/-! ## Empty matches on other texts -/

namespace Pattern

variable {p : Pattern} {t : Text} {m : Match}

/-- On the empty text every match is empty. -/
theorem stallsOn_nil_iff : p.tied.stallsOn [] = true ↔ p.run (Place.start []) ≠ [] := by
  rw [stallsOn, find_tied, matchAt]
  cases hrun : p.run (Place.start []) with
  | nil => simp
  | cons e ends =>
    obtain ⟨u, hu, -⟩ := p.exists_reads (Place.start []) e (by simp [hrun])
    obtain ⟨rfl, -⟩ := List.append_eq_nil_iff.mp hu.rest.symm
    simp [Match.isEmpty, hu.offset]

/-- An empty match ends where it starts. -/
theorem exists_within_of_isEmpty (hm : p.tied.find t = some m) (hempty : m.isEmpty = true) :
    ∃ e ∈ p.run (Place.start t), e.within t = true := by
  rw [find_tied] at hm
  obtain ⟨e, he, rfl⟩ := Option.map_eq_some_iff.mp hm
  have hmem := List.mem_of_head? he
  obtain ⟨u, hu, -⟩ := p.exists_reads (Place.start t) e hmem
  refine ⟨e, hmem, ?_⟩
  have hoffset : e.offset = 0 + u.size := hu.offset
  have hstart : 0 = e.offset := beq_iff_eq.mp hempty
  obtain rfl : u = [] := Text.size_eq_zero_iff.mp (by omega)
  have hrest : t = [] ++ e.rest := hu.rest
  simp [Place.within, hrest]

/-- A pattern for which what comes after a place does not count has an empty match on the empty text
if it has one on any. -/
theorem stallsOn_nil (hp : p.Blind none t.head?) (hm : p.tied.find t = some m)
    (hempty : m.isEmpty = true) : p.tied.stallsOn [] = true := by
  obtain ⟨e, he, hwithin⟩ := exists_within_of_isEmpty hm hempty
  have hends := p.twins_run (x := []) hp _ _ (Place.twins_start [])
  have hmem : e ∈ (p.run (Place.start ([] ++ t))).filter (Place.within t) :=
    List.mem_filter.mpr ⟨he, hwithin⟩
  refine stallsOn_nil_iff.mpr fun hnil => ?_
  have hlength := hends.length_eq
  rw [List.append_nil, hnil, List.filter_nil, List.length_nil] at hlength
  rw [List.length_eq_zero_iff.mp hlength.symm] at hmem
  cases hmem

end Pattern

/-! ## Rules -/

/-- A rule is refused for a match of no extent exactly when its pattern has one on a probe. -/
theorem Rule.build_eq_zeroWidth_iff {compile : Regex.Compiler} {rule : Rule} {state : String}
    {declared : String → Bool} :
    rule.build compile state declared = .error (.zeroWidth state rule.pattern) ↔
      ∃ regex, compile.tied rule.ignoreCase rule.pattern = .ok regex ∧
        ∃ probe ∈ probes, regex.toPattern.stallsOn probe = true := by
  constructor
  · intro h
    rcases rule.build_cases compile state declared with ⟨e, he, p, hdefect, -⟩ | ⟨built, hbuilt, -⟩
    · cases h.symm.trans he
      cases hdefect with
      | width hregex hprobe hstalls => exact ⟨_, hregex, _, hprobe, hstalls⟩
    · cases h.symm.trans hbuilt
  · rintro ⟨regex, hregex, hprobe⟩
    have hstalls : probes.any regex.toPattern.stallsOn = true := List.any_eq_true.mpr hprobe
    simp only [build, hregex, hstalls, if_true]

/-- Where a pattern is a regular expression by itself and has no test of a place, its rule is
refused for a match of no extent exactly when it has one on some text, whatever the limits of the
compiler.  So if the rule is built, none of its matches is passed over for that. -/
theorem Rule.zeroWidth_iff_of_assertionFree (limits : Regex.Limits) {rule : Rule} {r : Regex}
    (state : String) (declared : String → Bool)
    (hr : Regex.read? (Regex.ruleFlags rule.ignoreCase) rule.pattern = some r)
    (hfree : r.assertionFree = true) :
    (rule.build (.within limits) state declared = .error (.zeroWidth state rule.pattern) ↔
      ∃ regex, (Regex.Compiler.within limits).tied rule.ignoreCase rule.pattern = .ok regex ∧
        ∃ t m, regex.toPattern.find t = some m ∧ m.isEmpty = true) ∧
    ∀ built, rule.build (.within limits) state declared = .ok built →
      ∀ t m, built.pattern.find t = some m → m.isEmpty = false := by
  have hexact : ∀ regex,
      (Regex.Compiler.within limits).tied rule.ignoreCase rule.pattern = .ok regex →
      ∀ t m, regex.toPattern.find t = some m → m.isEmpty = true →
      rule.build (.within limits) state declared = .error (.zeroWidth state rule.pattern) := by
    intro regex hregex t m hm hempty
    obtain rfl := Regex.eq_of_read? hr (Regex.Compiler.within_eq_ok_iff.mp hregex).1
    have hm : r.toPattern.tied.find t = some m := hm
    exact build_eq_zeroWidth_iff.mpr ⟨_, hregex, [], List.mem_cons_self ..,
      Pattern.stallsOn_nil (Regex.blind_toPattern hfree) hm hempty⟩
  refine ⟨⟨fun h => ?_, fun ⟨regex, hregex, t, m, hm, hempty⟩ => hexact regex hregex t m hm hempty⟩,
    fun built hbuilt t m hm => ?_⟩
  · obtain ⟨regex, hregex, probe, -, hstalls⟩ := build_eq_zeroWidth_iff.mp h
    obtain ⟨m, hm, hempty⟩ := Option.any_eq_true _ _ |>.mp hstalls
    exact ⟨regex, hregex, probe, m, hm, hempty⟩
  · by_contra hempty
    obtain ⟨e, he, -⟩ | ⟨built', hbuilt', hbuilds, -⟩ :=
      rule.build_cases (.within limits) state declared
    · cases hbuilt.symm.trans he
    cases hbuilt.symm.trans hbuilt'
    obtain ⟨regex, hregex, hpattern⟩ := hbuilds.pattern
    rw [hpattern] at hm
    cases hbuilt.symm.trans (hexact regex hregex t m hm (by simpa using hempty))

/-- A lazy choice that is refused, and an expression that is built and never has an empty match. -/
theorem Rule.zeroWidth_iff_of_assertionFree_choice :
    let choice : Rule := { pattern := "(?:x|y\x7b0,2\x7d?)+".toList }
    let word : Rule := { pattern := "(x|y\x7b1,2\x7d)z*".toList, ignoreCase := true }
    choice.build .standard "root" (fun _ => false) = .error (.zeroWidth "root" choice.pattern) ∧
      ∃ built, word.build .standard "root" (fun _ => false) = .ok built ∧
        ∀ t m, built.pattern.find t = some m → m.isEmpty = false := by
  intro choice word
  obtain ⟨r, hr, hfree⟩ : ∃ r, Regex.read? (Regex.ruleFlags false) choice.pattern = some r ∧
      r.assertionFree = true := ⟨_, rfl, rfl⟩
  obtain ⟨r', hr', hfree'⟩ : ∃ r, Regex.read? (Regex.ruleFlags true) word.pattern = some r ∧
      r.assertionFree = true := ⟨_, rfl, rfl⟩
  obtain ⟨regex, hregex, m, hm, hempty⟩ :
      ∃ regex, Regex.Compiler.standard.tied false choice.pattern = .ok regex ∧
      ∃ m, regex.toPattern.find ['z'] = some m ∧ m.isEmpty = true := ⟨_, rfl, _, rfl, rfl⟩
  obtain ⟨built, hbuilt⟩ : ∃ built, word.build .standard "root" (fun _ => false) = .ok built :=
    ⟨_, rfl⟩
  refine ⟨(zeroWidth_iff_of_assertionFree .standard "root" (fun _ => false) hr hfree).1.mpr
    ⟨regex, hregex, ['z'], m, hm, hempty⟩, built, hbuilt, ?_⟩
  exact (zeroWidth_iff_of_assertionFree .standard "root" (fun _ => false) hr' hfree').2 built hbuilt

/-- With tests of a place the probes do not decide: an edge of a word that is none for the ASCII
characters stands before an `é`, and before no probe. -/
example : (Regex.Compiler.standard.tied false "\\b(?-u:\\B)".toList).toOption.any (fun regex =>
    regex.toPattern.stallsOn ['é'] && !probes.any regex.toPattern.stallsOn) = true := by
  decide +kernel

end Highlighter
