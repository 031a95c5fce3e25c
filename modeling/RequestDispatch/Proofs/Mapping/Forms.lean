import RequestDispatch.Mapping.Error

/-! The notation with stars.

It has three forms: a star and an ending, a root and all beneath it, and one path.
`Pattern.WrittenAs` says which texts are of a form and `Pattern.Covers` which paths a pattern
is for, both without the reader. The reader takes exactly the texts of a form, each of one
form only, and refuses every other under its own name; what it reads is written as it was and
serves the paths it is for (`three_forms`). -/
namespace RequestDispatch

namespace Text

theorem contains_iff {c : Char} {s : String} : contains c s = true ↔ c ∈ s.toList := by
  simp [contains]

theorem not_contains_iff {c : Char} {s : String} : contains c s = false ↔ c ∉ s.toList := by
  rw [← contains_iff, Bool.not_eq_true]

theorem endsIn_iff {tail s : String} : endsIn tail s = true ↔ ∃ rest, s = rest ++ tail := by
  simp only [endsIn, Option.isSome_iff_exists, before?_eq_some_iff]

/-- A text that begins with one character continues with some other text. -/
theorem beginsWith_iff {c : Char} {s : String} :
    beginsWith c s = true ↔ ∃ rest, s = String.singleton c ++ rest := by
  rw [beginsWith_iff_toList]
  constructor
  · rintro ⟨rest, h⟩
    refine ⟨String.ofList rest, String.ext ?_⟩
    rw [h, String.toList_append, String.toList_ofList, String.toList_singleton, List.singleton_append]
  · rintro ⟨rest, rfl⟩
    exact ⟨rest.toList, by rw [String.toList_append, String.toList_singleton, List.singleton_append]⟩

end Text

namespace Pattern

/-- Empty, or a slash and whatever follows. -/
def Rooted (s : String) : Prop := s = "" ∨ ∃ rest, s = "/" ++ rest

theorem isRooted_iff {s : String} : isRooted s = true ↔ Rooted s := by
  rw [isRooted, Bool.or_eq_true, decide_eq_true_iff, Text.beginsWith_iff]
  rfl

/-- The texts that write a pattern. -/
inductive WrittenAs : Pattern → String → Prop where
  | suffix {ending : String} (hne : ending ≠ "") (hslash : '/' ∉ ending.toList)
      (hstar : '*' ∉ ending.toList) : WrittenAs (.suffix ("." ++ ending)) ("*." ++ ending)
  | beneath {root : String} (hstar : '*' ∉ root.toList) (hroot : Rooted root) :
    WrittenAs (.beneath root) (root ++ "/*")
  | literal {path : String} (hstar : '*' ∉ path.toList) (hroot : Rooted path) :
    WrittenAs (.literal path) path

/-- The paths a pattern in this notation is for. -/
inductive Covers : Pattern → String → Prop where
  | suffix (start ending : String) : Covers (.suffix ending) (start ++ ending)
  | root (root : String) : Covers (.beneath root) root
  | beneath (root rest : String) : Covers (.beneath root) (root ++ ("/" ++ rest))
  | literal (path : String) : Covers (.literal path) path

/-- The ending keeps the dot behind the star. -/
theorem star_append (ending : String) : "*." ++ ending = "*" ++ ("." ++ ending) := by
  rw [← String.append_assoc]
  rfl

theorem toList_dotted (ending : String) : ("." ++ ending).toList = '.' :: ending.toList :=
  String.toList_append

/-! ### The reader by the form it tries -/

theorem ending?_eq_ok_iff {s : String} {p : Pattern} :
    ending? s = .ok p ↔ ∃ ending, s = "." ++ ending ∧ ending ≠ "" ∧ '/' ∉ ending.toList ∧
      '*' ∉ ending.toList ∧ p = .suffix s := by
  constructor
  · intro h
    unfold ending? at h
    split at h
    · cases h
    next hform =>
      split at h
      · cases h
      next hmark =>
        simp only [Bool.or_eq_true, not_or, Bool.not_eq_true, Bool.not_eq_false',
          decide_eq_false_iff_not, Text.not_contains_iff] at hform hmark
        obtain ⟨ending, rfl⟩ := Text.beginsWith_iff.1 hform.1
        cases h
        refine ⟨ending, rfl, ?_, ?_, ?_, rfl⟩
        · rintro rfl
          exact hform.2 (by decide)
        · exact fun hmem => hmark.1 (String.toList_append ▸ List.mem_append_right _ hmem)
        · exact fun hmem => hmark.2 (String.toList_append ▸ List.mem_append_right _ hmem)
  · rintro ⟨ending, rfl, hne, hslash, hstar, rfl⟩
    have hform : Text.beginsWith '.' ("." ++ ending) = true := Text.beginsWith_iff.2 ⟨ending, rfl⟩
    have hlength : ¬("." ++ ending).toList.length < 2 := by
      rw [toList_dotted, List.length_cons, Nat.not_lt, Nat.succ_le_succ_iff, Nat.succ_le_iff,
        List.length_pos_iff]
      exact fun h => hne (String.toList_inj.1 h)
    have hmark {c : Char} (hc : c ≠ '.') (hmem : c ∉ ending.toList) :
        Text.contains c ("." ++ ending) = false := by
      rw [Text.not_contains_iff, toList_dotted]
      exact List.not_mem_cons_of_ne_of_not_mem hc hmem
    simp only [ending?, hform, hlength, hmark (by decide : '/' ≠ '.') hslash,
      hmark (by decide : '*' ≠ '.') hstar, Bool.not_true, Bool.or_false, decide_false,
      Bool.false_eq_true, if_false]

theorem beneath?_eq_ok_iff {root : String} {p : Pattern} :
    beneath? root = .ok p ↔ '*' ∉ root.toList ∧ Rooted root ∧ p = .beneath root := by
  unfold beneath?
  rw [← isRooted_iff, ← Text.not_contains_iff]
  cases Text.contains '*' root <;> cases isRooted root <;> simp [eq_comm]

theorem literal?_eq_ok_iff {path : String} {p : Pattern} :
    literal? path = .ok p ↔ '*' ∉ path.toList ∧ Rooted path ∧ p = .literal path := by
  unfold literal?
  rw [← isRooted_iff, ← Text.not_contains_iff]
  cases Text.contains '*' path <;> cases isRooted path <;> simp [eq_comm]

/-- A star in front tells the first form from the second. -/
theorem Rooted.ne_star {root : String} (hroot : Rooted root) (ending : String) :
    root ++ "/*" ≠ "*" ++ ending := by
  intro h
  have hhead := congrArg (·.toList.head?) h
  rcases hroot with rfl | ⟨rest, rfl⟩ <;> simp [String.toList_append] at hhead

theorem WrittenAs.of_star {p : Pattern} {ending : String} (h : WrittenAs p ("*" ++ ending)) :
    ending? ending = .ok p := by
  generalize hs : "*" ++ ending = s at h
  cases h with
  | @suffix e hne hslash hstar =>
    have hending : ending = "." ++ e := (String.append_right_inj _).1 (hs.trans (star_append e))
    exact ending?_eq_ok_iff.2 ⟨e, hending, hne, hslash, hstar, hending ▸ rfl⟩
  | beneath _ hroot => exact absurd hs.symm (hroot.ne_star ending)
  | literal hstar =>
    refine absurd ?_ hstar
    rw [← hs, String.toList_append]
    exact List.mem_cons_self

theorem servlet?_eq_ok_iff {s : String} {p : Pattern} : servlet? s = .ok p ↔ WrittenAs p s := by
  unfold servlet?
  cases hafter : Text.after? "*" s with
  | some ending =>
    obtain rfl := Text.after?_eq_some_iff.1 hafter
    refine ⟨fun h => ?_, WrittenAs.of_star⟩
    obtain ⟨ending, rfl, hne, hslash, hstar, rfl⟩ := ending?_eq_ok_iff.1 h
    rw [← star_append]
    exact .suffix hne hslash hstar
  | none =>
    have hnone (ending : String) : s ≠ "*" ++ ending := fun h => by
      rw [Text.after?_eq_some_iff.2 h] at hafter
      cases hafter
    cases hbefore : Text.before? "/*" s with
    | some root =>
      obtain rfl := Text.before?_eq_some_iff.1 hbefore
      refine beneath?_eq_ok_iff.trans ⟨?_, fun h => ?_⟩
      · rintro ⟨hstar, hroot, rfl⟩
        exact .beneath hstar hroot
      · generalize hs : root ++ "/*" = s at h hnone
        cases h with
        | suffix => exact absurd (star_append _) (hnone _)
        | beneath hstar hroot =>
          obtain rfl := (String.append_left_inj _).1 hs
          exact ⟨hstar, hroot, rfl⟩
        | literal hstar =>
          refine absurd ?_ hstar
          rw [← hs, String.toList_append]
          exact List.mem_append_right _ (by decide)
    | none =>
      refine literal?_eq_ok_iff.trans ⟨?_, fun h => ?_⟩
      · rintro ⟨hstar, hroot, rfl⟩
        exact .literal hstar hroot
      · cases h with
        | suffix => exact absurd (star_append _) (hnone _)
        | beneath =>
          rw [Text.before?_eq_some_iff.2 rfl] at hbefore
          cases hbefore
        | literal hstar hroot => exact ⟨hstar, hroot, rfl⟩

theorem ofText?_servlet_eq_ok_iff {s : String} {p : Pattern} :
    ofText? s .servlet = .ok p ↔ WrittenAs p s := by
  rw [← servlet?_eq_ok_iff, ofText?, read?]
  cases servlet? s with
  | ok q =>
    constructor <;>
    · rintro ⟨⟩
      rfl
  | error e => exact ⟨nofun, nofun⟩

/-! ### What is read -/

namespace WrittenAs
variable {p : Pattern} {s : String}

theorem text_eq (h : WrittenAs p s) : p.text = s := by
  cases h with
  | suffix => exact (star_append _).symm
  | beneath => rfl
  | literal => rfl

theorem serves_iff (h : WrittenAs p s) (path : String) : p.serves path = true ↔ p.Covers path := by
  cases h with
  | suffix =>
    rw [serves, Text.endsIn_iff]
    constructor
    · rintro ⟨start, rfl⟩
      exact .suffix start _
    · rintro ⟨⟩
      exact ⟨_, rfl⟩
  | @beneath root =>
    rw [serves, Bool.or_eq_true, decide_eq_true_iff, Option.any_eq_true]
    constructor
    · rintro (rfl | ⟨rest, hrest, hslash⟩)
      · exact .root _
      · obtain ⟨rest, rfl⟩ := Text.beginsWith_iff.1 hslash
        obtain rfl := Text.after?_eq_some_iff.1 hrest
        exact .beneath root rest
    · intro h
      cases h with
      | root => exact .inl rfl
      | beneath _ rest =>
        exact .inr ⟨_, Text.after?_eq_some_iff.2 rfl, Text.beginsWith_iff.2 ⟨rest, rfl⟩⟩
  | literal =>
    rw [serves, decide_eq_true_iff]
    constructor
    · rintro rfl
      exact .literal _
    · rintro ⟨⟩
      rfl

end WrittenAs

/-- **The three forms.** A text is read as what it writes in one form, and only in one. What is
read gives the text back, so that it is read again alike, and serves the paths it is for. A text
of no form is refused under its own name. -/
theorem three_forms (s : String) :
    (∀ p, ofText? s .servlet = .ok p ↔ WrittenAs p s) ∧
      (∀ p q, WrittenAs p s → WrittenAs q s → p = q) ∧
      (∀ p, WrittenAs p s → p.text = s ∧ ofText? p.text .servlet = .ok p ∧
        ∀ path, p.serves path = true ↔ p.Covers path) ∧
      ((¬∃ p, WrittenAs p s) → ∃ e, ofText? s .servlet = .error ⟨s, .pattern e⟩) := by
  refine ⟨fun p => ofText?_servlet_eq_ok_iff, fun p q hp hq => ?_, fun p hp => ?_, fun hnone => ?_⟩
  · have hread := ofText?_servlet_eq_ok_iff.2 hp
    rw [ofText?_servlet_eq_ok_iff.2 hq] at hread
    exact (Except.ok.inj hread).symm
  · have htext : p.text = s := hp.text_eq
    exact ⟨htext, htext ▸ ofText?_servlet_eq_ok_iff.2 hp, hp.serves_iff⟩
  · cases hread : servlet? s with
    | ok p => exact absurd ⟨p, servlet?_eq_ok_iff.1 hread⟩ hnone
    | error e => exact ⟨e, by rw [ofText?, read?, hread]; rfl⟩

end Pattern
end RequestDispatch
