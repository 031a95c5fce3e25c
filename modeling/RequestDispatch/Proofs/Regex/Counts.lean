import RequestDispatch.Proofs.Regex.Remainder
import RequestDispatch.Proofs.Regex.Searching
import RequestDispatch.Regex.Meaning

/-! The bounds of repetitions.

The reader refuses bounds that are the wrong way round (`le_of_counts`), and what an expression
means keeps the bounds that are written. So the bounds of whatever a text stands for are in
order (`countsOrdered_of_ofText?`). -/
namespace RequestDispatch.Regex

/-! ### What is meant -/

namespace Written

/-- Whatever the mode, the bounds of what is meant are in order. -/
def Ordered (e : Written) : Prop :=
  ∀ ⦃mode r after⦄, e.meaning mode = .ok (r, after) → r.CountsOrdered

/-- Parts that are no repetition and have none within. -/
def IsAtom : Written → Prop
  | switch _ | letter _ | dot | anchor _ | short _ _ | property _ _ | bracketed _ _ => True
  | times _ _ _ | group _ _ | alt _ | concat _ => False

theorem IsAtom.ordered {e : Written} (he : e.IsAtom) : e.Ordered := by
  intro mode r after h
  cases e with
  | switch | anchor =>
    rw [meaning] at h
    cases h
    trivial
  | letter | dot | short | property =>
    rw [meaning] at h
    obtain ⟨s, -, hs⟩ := ok_of_map h
    cases hs
    trivial
  | bracketed =>
    rw [meaning] at h
    obtain ⟨body, -, h⟩ := ok_of_bind h
    obtain ⟨s, -, h⟩ := ok_of_bind h
    cases h
    trivial
  | times | group | alt | concat => exact he.elim

theorem ordered_times {e : Written} (he : e.Ordered) {low : Nat} {high : Option Nat}
    (hle : ∀ h ∈ high, low ≤ h) : (times e low high).Ordered := by
  intro mode r after h
  rw [meaning] at h
  obtain ⟨⟨inner, _⟩, hinner, h⟩ := ok_of_bind h
  cases h
  exact ⟨he hinner, hle⟩

theorem ordered_group {e : Written} (he : e.Ordered) (flags : Switches) : (group flags e).Ordered := by
  intro mode r after h
  rw [meaning] at h
  obtain ⟨⟨inner, _⟩, hinner, h⟩ := ok_of_bind h
  cases h
  exact he hinner

/-- Expressions that are joined, in a row or as a choice, one after the other. -/
theorem countsOrdered_of_joined {run : Mode → List Written → Except Error (Regex × Mode)}
    (join : Regex → Regex → Regex)
    (hjoin : ∀ r s, r.CountsOrdered → s.CountsOrdered → (join r s).CountsOrdered)
    (hnil : ∀ mode, run mode [] = .ok (.empty, mode))
    (hone : ∀ mode e, run mode [e] = e.meaning mode)
    (hmore : ∀ mode e f rest, run mode (e :: f :: rest) = do
      let (r, mode) ← e.meaning mode
      let (s, mode) ← run mode (f :: rest)
      .ok (join r s, mode))
    {l : List Written} (hl : ∀ e ∈ l, e.Ordered) {mode after : Mode} {r : Regex}
    (h : run mode l = .ok (r, after)) : r.CountsOrdered := by
  induction l generalizing mode r with
  | nil =>
    rw [hnil] at h
    cases h
    trivial
  | cons e rest ih =>
    obtain ⟨he, hrest⟩ := List.forall_mem_cons.1 hl
    cases rest with
    | nil => exact he (hone mode e ▸ h)
    | cons f rest =>
      rw [hmore] at h
      obtain ⟨⟨first, mode⟩, hfirst, h⟩ := ok_of_bind h
      obtain ⟨⟨others, _⟩, hothers, h⟩ := ok_of_bind h
      cases h
      exact hjoin _ _ (he hfirst) (ih hrest hothers)

theorem ordered_concat {parts : List Written} (hparts : ∀ e ∈ parts, e.Ordered) :
    (concat parts).Ordered := by
  intro mode r after h
  rw [meaning] at h
  exact countsOrdered_of_joined .seq (fun _ _ hr hs => ⟨hr, hs⟩) (fun _ => by rw [row])
    (fun _ _ => by rw [row]) (fun _ _ _ _ => by rw [row]; exact nofun) hparts h

theorem ordered_alt {branches : List Written} (hbranches : ∀ e ∈ branches, e.Ordered) :
    (alt branches).Ordered := by
  intro mode r after h
  rw [meaning] at h
  exact countsOrdered_of_joined .alt (fun _ _ hr hs => ⟨hr, hs⟩) (fun _ => by rw [choice])
    (fun _ _ => by rw [choice]) (fun _ _ _ _ => by rw [choice]; exact nofun) hbranches h

theorem ordered_ofParts {parts : List Written} (hparts : ∀ e ∈ parts, e.Ordered) :
    (ofParts parts).Ordered := by
  unfold ofParts
  split
  · exact hparts _ (List.mem_singleton_self _)
  · exact ordered_concat hparts

end Written

/-! ### What is read -/

section Reader
variable {extended : Bool} {s rest : List Char} {e : Written}

theorem isAtom_of_shortEscape? {c : Char} (h : shortEscape? c = some e) : e.IsAtom := by
  unfold shortEscape? at h
  split at h <;> cases h <;> trivial

theorem isAtom_of_escape (h : escape extended s = .ok (e, rest)) : e.IsAtom := by
  cases s with
  | nil => cases h
  | cons c s =>
    unfold escape at h
    dsimp only at h
    split at h
    · cases h
    split at h
    · cases h
      trivial
    split at h
    next hshort =>
      cases h
      exact isAtom_of_shortEscape? hshort
    -- The rest are characters by code point, properties and word edges.
    next =>
      split at h
      case h_7 => cases h
      all_goals
        obtain ⟨x, -, hx⟩ := ok_of_map h
        cases hx
        trivial

theorem isAtom_of_classMembers {turns : Nat} {members : List Item} {stack : List Enclosing}
    (h : classMembers extended turns members stack s = .ok (e, rest)) : e.IsAtom := by
  induction turns generalizing members stack s with
  | zero => cases h
  | succ turns ih =>
    rw [classMembers] at h
    split at h
    · cases h
    · split at h
      · exact ih h
      · obtain ⟨x, -, h⟩ := ok_of_bind h
        exact ih h
    · split at h
      · cases h
        trivial
      · exact ih h
      · cases h
    · split at h
      · exact ih h
      · obtain ⟨x, -, h⟩ := ok_of_bind h
        exact ih h

theorem isAtom_of_bracketed (h : bracketed extended s = .ok (e, rest)) : e.IsAtom := by
  obtain ⟨x, -, h⟩ := ok_of_bind h
  exact isAtom_of_classMembers h

theorem le_of_closeCounts {low low' : Nat} {high high' : Option Nat}
    (h : closeCounts extended low high s = .ok (low', high', rest)) : ∀ h ∈ high', low' ≤ h := by
  unfold closeCounts at h
  split at h
  · split at h <;> cases h
    next hle =>
      intro h hh
      rw [Option.mem_def.1 hh] at hle
      simpa using hle
  · cases h

theorem le_of_upperCount {n : Except Error Nat} {low : Nat} {high : Option Nat}
    (h : upperCount extended n s = .ok (low, high, rest)) : ∀ h ∈ high, low ≤ h := by
  unfold upperCount at h
  split at h
  · cases h
  · obtain ⟨low, -, h⟩ := ok_of_bind h
    exact le_of_closeCounts h
  · obtain ⟨low, -, h⟩ := ok_of_bind h
    obtain ⟨high, -, h⟩ := ok_of_bind h
    exact le_of_closeCounts h

theorem le_of_counts {low : Nat} {high : Option Nat}
    (h : counts extended s = .ok (low, high, rest)) : ∀ h ∈ high, low ≤ h := by
  unfold counts at h
  split at h
  · cases h
  split at h
  · cases h
  · exact le_of_upperCount h
  · obtain ⟨low, -, h⟩ := ok_of_bind h
    exact le_of_closeCounts h

end Reader

/-! ### The whole reading -/

def Frame.Ordered : Frame → Prop
  | .group before _ _ => ∀ e ∈ before, e.Ordered
  | .choice branches => ∀ e ∈ branches, e.Ordered

/-- The bounds of all that has been read are in order. -/
structure Reading.Ordered (r : Reading) : Prop where
  row : ∀ e ∈ r.row, e.Ordered
  stack : ∀ f ∈ r.stack, f.Ordered

namespace Reading
variable {r r' : Reading}

theorem Ordered.add (h : r.Ordered) {e : Written} (he : e.Ordered) : (r.add e).Ordered :=
  ⟨List.forall_mem_cons.2 ⟨he, h.row⟩, h.stack⟩

theorem Ordered.repeated (h : r.Ordered) {low : Nat} {high : Option Nat} (hle : ∀ h ∈ high, low ≤ h)
    (hr' : r.repeated low high = .ok r') : r'.Ordered := by
  obtain ⟨row, hrow, rfl⟩ := ok_of_map hr'
  refine ⟨?_, h.stack⟩
  unfold repeatLast at hrow
  split at hrow
  · cases hrow
  · cases hrow
  next hlast =>
    cases hrow
    have hparts := h.row
    rw [hlast, List.forall_mem_cons] at hparts
    exact List.forall_mem_cons.2 ⟨Written.ordered_times hparts.1 hle, hparts.2⟩

theorem Ordered.closeChoice (h : r.Ordered) {e : Written} {stack : List Frame}
    (hclose : closeChoice r.row r.stack = (e, stack)) : e.Ordered ∧ ∀ f ∈ stack, f.Ordered := by
  have hrow : (Written.ofParts r.row.reverse).Ordered :=
    Written.ordered_ofParts fun e he => h.row e (List.mem_reverse.1 he)
  unfold Regex.closeChoice at hclose
  split at hclose
  next branches stack hstack =>
    cases hclose
    have hframes := h.stack
    rw [hstack, List.forall_mem_cons] at hframes
    refine ⟨Written.ordered_alt fun e he => ?_, hframes.2⟩
    exact (List.forall_mem_cons.2 ⟨hrow, hframes.1⟩) e (List.mem_reverse.1 he)
  next =>
    cases hclose
    exact ⟨hrow, h.stack⟩

theorem Ordered.enter (h : r.Ordered) {o : Opening} (hr' : r.enter o = .ok r') : r'.Ordered := by
  have hframes (flags : Switches) :
      ∀ f ∈ Frame.group r.row flags r.extended :: r.stack, f.Ordered :=
    List.forall_mem_cons.2 ⟨h.row, h.stack⟩
  cases o with
  | switch flags =>
    cases hr'
    have hswitch : (Written.switch flags).Ordered := Written.IsAtom.ordered trivial
    exact ⟨(h.add hswitch).row, h.stack⟩
  | group flags name =>
    cases name with
    | none =>
      cases hr'
      exact ⟨nofun, hframes flags⟩
    | some name =>
      dsimp only [Reading.enter] at hr'
      split at hr'
      · cases hr'
      · cases hr'
        exact ⟨nofun, hframes flags⟩

theorem Ordered.leave (h : r.Ordered) (hr' : r.leave = .ok r') : r'.Ordered := by
  unfold Reading.leave at hr'
  split at hr'
  next e before flags outer stack hclose =>
    cases hr'
    obtain ⟨he, hframes⟩ := h.closeChoice hclose
    obtain ⟨hbefore, hstack⟩ := List.forall_mem_cons.1 hframes
    exact ⟨List.forall_mem_cons.2 ⟨Written.ordered_group he flags, hbefore⟩, hstack⟩
  next => cases hr'

theorem Ordered.branch (h : r.Ordered) : r.branch.Ordered := by
  have hrow : (Written.ofParts r.row.reverse).Ordered :=
    Written.ordered_ofParts fun e he => h.row e (List.mem_reverse.1 he)
  unfold Reading.branch
  split
  next branches stack hstack =>
    have hframes := h.stack
    rw [hstack, List.forall_mem_cons] at hframes
    exact ⟨nofun, List.forall_mem_cons.2 ⟨List.forall_mem_cons.2 ⟨hrow, hframes.1⟩, hframes.2⟩⟩
  next =>
    exact ⟨nofun, List.forall_mem_cons.2 ⟨List.forall_mem_singleton.2 hrow, h.stack⟩⟩

theorem Ordered.finish (h : r.Ordered) {e : Written} (he : r.finish = .ok e) : e.Ordered := by
  unfold Reading.finish at he
  split at he
  next hclose =>
    cases he
    exact (h.closeChoice hclose).1
  next => cases he

theorem Ordered.take (h : r.Ordered) {c : Char} {s rest : List Char}
    (hr' : r.take c s = .ok (r', rest)) : r'.Ordered := by
  unfold Reading.take at hr'
  split at hr'
  · obtain ⟨⟨o, s⟩, -, hr'⟩ := ok_of_bind hr'
    obtain ⟨r'', henter, hr'⟩ := ok_of_bind hr'
    cases hr'
    exact h.enter henter
  · obtain ⟨r'', hleave, hr'⟩ := ok_of_map hr'
    cases hr'
    exact h.leave hleave
  · cases hr'
    exact h.branch
  · obtain ⟨x, hclass, hr'⟩ := ok_of_map hr'
    cases hr'
    exact h.add (isAtom_of_bracketed hclass).ordered
  · obtain ⟨r'', hrepeated, hr'⟩ := ok_of_map hr'
    cases hr'
    exact h.repeated (by simp) hrepeated
  · obtain ⟨r'', hrepeated, hr'⟩ := ok_of_map hr'
    cases hr'
    exact h.repeated (by simp) hrepeated
  · obtain ⟨r'', hrepeated, hr'⟩ := ok_of_map hr'
    cases hr'
    exact h.repeated (by simp) hrepeated
  · obtain ⟨r₀, -, hr'⟩ := ok_of_bind hr'
    obtain ⟨⟨low, high, s⟩, hcounts, hr'⟩ := ok_of_bind hr'
    obtain ⟨r'', hrepeated, hr'⟩ := ok_of_bind hr'
    cases hr'
    exact h.repeated (le_of_counts hcounts) hrepeated
  · obtain ⟨x, hescape, hr'⟩ := ok_of_map hr'
    cases hr'
    exact h.add (isAtom_of_escape hescape).ordered
  all_goals
    cases hr'
    exact h.add (Written.IsAtom.ordered trivial)

theorem Ordered.readOn (h : r.Ordered) {turns : Nat} {s : List Char} {e : Written}
    (he : r.readOn turns s = .ok e) : e.Ordered := by
  induction turns generalizing r s with
  | zero => cases he
  | succ turns ih =>
    rw [Reading.readOn] at he
    split at he
    · exact h.finish he
    · obtain ⟨⟨r', rest⟩, htake, he⟩ := ok_of_bind he
      exact ih (h.take htake) he

end Reading

/-- **An expression that is accepted has the bounds of its repetitions in order.** -/
theorem countsOrdered_of_ofText? {text : String} {r : Regex} (h : ofText? text = .ok r) :
    r.CountsOrdered := by
  obtain ⟨e, he, h⟩ := ok_of_bind h
  obtain ⟨⟨r', after⟩, hmeaning, h⟩ := ok_of_bind h
  obtain ⟨e', hread, he⟩ := ok_of_bind he
  have hstart : Reading.start.Ordered :=
    ⟨fun _ he => absurd he List.not_mem_nil, fun _ hf => absurd hf List.not_mem_nil⟩
  dsimp only at h
  split at he <;> cases he
  split at h <;> cases h
  exact hstart.readOn hread hmeaning

end RequestDispatch.Regex
