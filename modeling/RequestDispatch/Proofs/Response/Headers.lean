import Mathlib.Data.List.Nodup
import RequestDispatch.Proofs.Response.Buffering

/-! The headers of a response.

A response has one header of a name, however its letters are written (`Distinct`), so that to look a
header up is to find the one that has the name (`Distinct.header?_eq_some_iff`). Setting a header puts it over
what was there (`header?_step`). Hence what a header has in the end is what it was last given before the
response was committed, and the message that the response is finished as has the same headers. -/
namespace RequestDispatch.Response

/-! ### Names -/

theorem lowerChar_lowerChar (c : Char) : Http.lowerChar (Http.lowerChar c) = Http.lowerChar c := by
  have hcapitals : ∀ n < 91, 65 ≤ n → Http.lowerChar (Char.ofNat (n + 32)) = Char.ofNat (n + 32) := by decide
  by_cases h : 65 ≤ c.toNat ∧ c.toNat ≤ 90
  · have hsmall : Http.lowerChar c = Char.ofNat (c.toNat + 32) := if_pos h
    rw [hsmall, hcapitals c.toNat (by omega) h.1]
  · have hsame : Http.lowerChar c = c := if_neg h
    rw [hsame, hsame]

/-- What is in small letters already is left as it is. -/
theorem lower_lower (name : String) : Http.lower (Http.lower name) = Http.lower name := by
  have hsame : Http.lowerChar ∘ Http.lowerChar = Http.lowerChar := funext lowerChar_lowerChar
  simp [Http.lower, hsame]

theorem sameName_iff {name name' : String} : sameName name name' = true ↔ Http.lower name = Http.lower name' :=
  beq_iff_eq

/-! ### One step -/

/-- No two headers have the same name. -/
def Distinct (r : Response) : Prop := (r.headers.map (Http.lower ·.1)).Nodup

/-- What a step is to give the header of a name. -/
def Step.gives? (name : String) : Step → Option String
  | .header name' value => if sameName name' name then some value else none
  | _ => none

theorem Step.gives?_header (name name' value : String) :
    (Step.header name' value).gives? name = if sameName name' name then some value else none := rfl

section Step
variable {r : Response}

/-- All that a step can do to the headers. -/
theorem headers_step (r : Response) (s : Step) :
    ((r.step s).headers = r.headers ∧ (r.committed = false → ∀ name, s.gives? name = none)) ∨
      ∃ name value, s = .header name value ∧
        (r.step s).headers = r.headers.filter (!sameName ·.1 name) ++ [(name, value)] := by
  cases s with
  | write data =>
    refine .inl ⟨?_, fun _ _ => rfl⟩
    rw [step, write_eq]
    split <;> rfl
  | flush => exact .inl ⟨rfl, fun _ _ => rfl⟩
  | reset => exact .inl ⟨rfl, fun _ _ => rfl⟩
  | status status =>
    refine .inl ⟨?_, fun _ _ => rfl⟩
    rw [step, setStatus]
    split <;> rfl
  | header name value =>
    cases hc : r.committed with
    | true => exact .inl ⟨by rw [step, setHeader, if_pos hc], Bool.noConfusion⟩
    | false => exact .inr ⟨name, value, rfl, by simp [step, setHeader, hc]⟩

theorem Distinct.step (h : r.Distinct) (s : Step) : (r.step s).Distinct := by
  unfold Distinct
  rcases headers_step r s with ⟨hsame, -⟩ | ⟨name, value, -, hset⟩
  · rw [hsame]
    exact h
  · have hkept : ((r.headers.filter (!sameName ·.1 name)).map (Http.lower ·.1)).Nodup :=
      h.sublist (List.filter_sublist.map _)
    have hnew : Http.lower name ∉ (r.headers.filter (!sameName ·.1 name)).map (Http.lower ·.1) := by
      simp [sameName]
    rw [hset, List.map_append, List.map_singleton]
    refine List.nodup_append.2 ⟨hkept, List.pairwise_singleton _ _, ?_⟩
    rintro kept hmem _ hlast rfl
    rw [List.mem_singleton.1 hlast] at hmem
    exact hnew hmem

/-- To look a header up is to find the one that has the name. -/
theorem Distinct.find?_eq_some_iff (h : r.Distinct) {name : String} {held : String × String} :
    r.headers.find? (sameName ·.1 name) = some held ↔
      held ∈ r.headers ∧ Http.lower held.1 = Http.lower name := by
  constructor
  · intro hfind
    have hname : sameName held.1 name = true := by simpa using List.find?_some hfind
    exact ⟨List.mem_of_find?_eq_some hfind, sameName_iff.1 hname⟩
  · rintro ⟨hmem, hname⟩
    cases hfind : r.headers.find? (sameName ·.1 name) with
    | none => exact absurd (sameName_iff.2 hname) (List.find?_eq_none.1 hfind held hmem)
    | some found =>
      have hfound : sameName found.1 name = true := by simpa using List.find?_some hfind
      have hsame := (sameName_iff.1 hfound).trans hname.symm
      rw [List.inj_on_of_nodup_map h (List.mem_of_find?_eq_some hfind) hmem hsame]

theorem Distinct.header?_eq_some_iff (h : r.Distinct) {name value : String} :
    r.header? name = some value ↔
      ∃ held ∈ r.headers, Http.lower held.1 = Http.lower name ∧ held.2 = value := by
  simp only [header?, Option.map_eq_some_iff, h.find?_eq_some_iff, and_assoc]

/-- Of a response that is not committed, a header has what the step gives it, and else what it had. -/
theorem header?_step (hc : r.committed = false) (s : Step) (name : String) :
    (r.step s).header? name = (s.gives? name).or (r.header? name) := by
  rcases headers_step r s with ⟨hsame, hnone⟩ | ⟨name', value, rfl, hset⟩
  · rw [header?, hsame, hnone hc name, Option.none_or, header?]
  · rw [header?, hset, List.find?_append, Step.gives?_header]
    by_cases hname : sameName name' name = true
    · have hgone : (r.headers.filter (!sameName ·.1 name')).find? (sameName ·.1 name) = none := by
        rw [List.find?_eq_none]
        intro held hheld hheldname
        have hdiffers := (List.mem_filter.1 hheld).2
        rw [sameName_iff] at hname hheldname
        simp [sameName, hheldname, hname] at hdiffers
      simp [hgone, hname]
    · have hkept : (r.headers.filter (!sameName ·.1 name')).find? (sameName ·.1 name) =
          r.headers.find? (sameName ·.1 name) := by
        rw [List.find?_filter]
        congr 1
        funext held
        cases hheld : sameName held.1 name with
        | false => simp
        | true =>
          rw [sameName_iff] at hname hheld
          simp [sameName, hheld, Ne.symm hname]
      simp [hkept, hname, header?]

end Step

/-! ### Many steps -/

/-- What steps last gave the header of a name. -/
def lastGiven? (name : String) (steps : List Step) : Option String :=
  (steps.filterMap (Step.gives? name)).getLast?

theorem lastGiven?_concat (name : String) (steps : List Step) (s : Step) :
    lastGiven? name (steps ++ [s]) = (s.gives? name).or (lastGiven? name steps) := by
  rw [lastGiven?, List.filterMap_append, List.getLast?_append, lastGiven?]
  cases h : s.gives? name <;> simp [h]

/-- Steps in two: those that come before the response is committed, and the rest, of which the first
commits it. -/
structure Parts (capacity : Nat) (steps early late : List Step) : Prop where
  whole : steps = early ++ late
  before : ∀ sooner s, sooner ++ [s] <+: early → ¬ Commits capacity sooner s
  commits : ∀ s rest, late = s :: rest → Commits capacity early s

section Fresh
variable (capacity : Nat)

theorem distinct_run (steps : List Step) : ((fresh capacity).run steps).Distinct := by
  induction steps using List.reverseRecOn with
  | nil => exact List.nodup_nil
  | append_singleton steps s ih =>
    rw [run_concat]
    exact ih.step s

theorem header?_run {steps : List Step} (h : ((fresh capacity).run steps).committed = false) (name : String) :
    ((fresh capacity).run steps).header? name = lastGiven? name steps := by
  induction steps using List.reverseRecOn with
  | nil => rfl
  | append_singleton steps s ih =>
    rw [run_concat, committed_step, Bool.or_eq_false_iff] at h
    rw [run_concat, header?_step h.1, ih h.1, lastGiven?_concat]

theorem committed_run_eq_false_iff (steps : List Step) :
    ((fresh capacity).run steps).committed = false ↔
      ∀ sooner s, sooner ++ [s] <+: steps → ¬ Commits capacity sooner s := by
  rw [← Bool.not_eq_true, committed_run_iff]
  push Not
  rfl

/-- All steps can be parted so, the rest being empty where none of them commits the response. -/
theorem exists_parts (steps : List Step) : ∃ early late, Parts capacity steps early late := by
  induction steps using List.reverseRecOn with
  | nil =>
    exact ⟨[], [], rfl, (committed_run_eq_false_iff capacity []).1 rfl, nofun⟩
  | append_singleton steps s ih =>
    cases hc : ((fresh capacity).run steps).committed with
    | false =>
      have hbefore := (committed_run_eq_false_iff capacity steps).1 hc
      by_cases hs : Commits capacity steps s
      · exact ⟨steps, [s], rfl, hbefore, by rintro _ _ ⟨⟩; exact hs⟩
      · refine ⟨steps ++ [s], [], (List.append_nil _).symm, ?_, nofun⟩
        rw [← committed_run_eq_false_iff, run_concat, committed_step, hc, Bool.false_or,
          ← Bool.not_eq_true, sends_run_iff capacity steps s hc]
        exact hs
    | true =>
      obtain ⟨early, late, hparts⟩ := ih
      refine ⟨early, late ++ [s], by rw [hparts.whole, List.append_assoc], hparts.before, ?_⟩
      cases late with
      | nil =>
        -- The response would not have been committed yet.
        have hopen := (committed_run_eq_false_iff capacity early).2 hparts.before
        rw [hparts.whole, List.append_nil, hopen] at hc
        cases hc
      | cons first rest =>
        rintro _ _ ⟨⟩
        exact hparts.commits first rest rfl

/-- The rest leaves the headers alone. -/
theorem Parts.headers_run {capacity : Nat} {steps early late : List Step} (h : Parts capacity steps early late) :
    ((fresh capacity).run steps).headers = ((fresh capacity).run early).headers := by
  rw [h.whole]
  cases late with
  | nil => rw [List.append_nil]
  | cons s rest =>
    have hopen := (committed_run_eq_false_iff capacity early).2 h.before
    have hsends := (sends_run_iff capacity early s hopen).2 (h.commits s rest rfl)
    have hcommitted : (((fresh capacity).run early).step s).committed = true := by
      rw [committed_step, hsends, Bool.or_true]
    rw [run_append]
    exact (frozen_run hcommitted rest).2.2.trans (frozen_step _ hcommitted).2

end Fresh

/-! ### Messages -/

/-- What the message of a response tells of it. -/
structure Finished.Tells (m : Finished) (r : Response) : Prop where
  status : m.status = r.status
  body : m.body = r.body
  once : (m.headers.map (·.1)).Nodup
  headers : ∀ name value, (name, value) ∈ m.headers ↔ Http.lower name = name ∧ r.header? name = some value

theorem Distinct.tells {r : Response} (h : r.Distinct) {m : Finished} (hm : r.finish? = some m) : m.Tells r := by
  simp only [finish?, Option.ite_none_right_eq_some, Option.some.injEq] at hm
  obtain ⟨-, rfl⟩ := hm
  refine ⟨rfl, rfl, ?_, fun name value => ?_⟩
  · rw [List.map_map]
    exact h
  · simp only [List.mem_map, Prod.mk.injEq, h.header?_eq_some_iff]
    constructor
    · rintro ⟨held, hmem, rfl, rfl⟩
      exact ⟨lower_lower _, held, hmem, (lower_lower _).symm, rfl⟩
    · rintro ⟨hsmall, held, hmem, hname, hvalue⟩
      exact ⟨held, hmem, hname.trans hsmall, hvalue⟩

/-- **The headers of a response are a map from names to values.** No two of them have the same name, in
whatever letters. A header has, for a name in whatever letters, what it was last given by the steps before
the one that commits the response, and there is none if they gave it nothing. If the response can be
written as a message, the message has its status and its body and, once each and in small letters, the
headers that the response has. -/
theorem headers_are_map (capacity : Nat) (steps : List Step) :
    let r := (fresh capacity).run steps
    r.headers.Pairwise (fun held other => sameName held.1 other.1 = false) ∧
    (∃ early late, Parts capacity steps early late ∧ ∀ name, r.header? name = lastGiven? name early) ∧
    ∀ m, r.finish? = some m → m.Tells r := by
  intro r
  have hdistinct : r.Distinct := distinct_run capacity steps
  refine ⟨?_, ?_, fun m => hdistinct.tells⟩
  · refine (List.pairwise_map.1 hdistinct).imp fun hne => ?_
    rw [← Bool.not_eq_true, sameName_iff]
    exact hne
  · obtain ⟨early, late, hparts⟩ := exists_parts capacity steps
    have hopen := (committed_run_eq_false_iff capacity early).2 hparts.before
    refine ⟨early, late, hparts, fun name => ?_⟩
    rw [← header?_run capacity hopen, header?, hparts.headers_run, header?]

/-- A write that is too much commits in the middle: what is set after it does not count. -/
example :
    ((fresh 4).run [.header "Content-Type" "text/plain", .header "content-type" "text/html", .write [1, 2, 3],
      .header "X-Late" "0", .write [4, 5], .header "x-late" "1", .status 500]).finish? =
    some ⟨200, [("content-type", "text/html"), ("x-late", "0")], [1, 2, 3, 4, 5]⟩ := by decide

end RequestDispatch.Response
