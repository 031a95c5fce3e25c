import RequestDispatch.Proofs.Path.Collapsing
import RequestDispatch.Proofs.Text.Escapes

/-! Path info without escapes.

A path that follows a tidy front after one slash, encoded as a whole, is given back as path info, with
whatever slashes it had (`info?_undoes_escapes`). Path info is undone as a whole or not at all: if its escapes
cannot be undone, before or after runs of slashes are collapsed, it is the path as it is collapsed. -/
namespace RequestDispatch.Path

open Text (IsUtf8)
open Text.Escape (Digits StandsFor Broken Unreadable Encodes)

variable {s t e : List Char} {bs : List UInt8} {path matched rest : String}

/-! ### Escapes in runs of slashes -/

theorem collapse_append_cons {c : Char} (hc : c ≠ '/') (s t : List Char) :
    collapse (s ++ c :: t) = collapse s ++ c :: collapse t := by
  induction s using collapse.induct with
  | case1 s ih => simpa using ih
  | case2 d s hrun ih =>
    have hapart : ∀ d' ∈ (s ++ c :: t).head?, Apart d d' := by
      rintro d' hd' ⟨rfl, rfl⟩
      cases s with
      | nil => exact hc (Option.some.inj hd')
      | cons d' s =>
        cases hd'
        exact hrun s rfl rfl
    have hself : collapse (d :: s) = d :: collapse s := by rw [collapse.eq_2 d s hrun]
    rw [List.cons_append, collapse_cons hapart, ih, hself, List.cons_append]
  | case3 => exact collapse_cons_of_ne hc t

theorem eq_cons_of_collapse {c : Char} (hc : c ≠ '/') (h : collapse s = c :: t) :
    ∃ s', s = c :: s' ∧ collapse s' = t := by
  have hhead := head?_collapse s
  rw [h] at hhead
  obtain ⟨s', rfl⟩ := List.head?_eq_some_iff.1 hhead.symm
  rw [collapse_cons_of_ne hc] at h
  exact ⟨s', rfl, (List.cons.inj h).2⟩

/-- Collapsing brings no mark together with digits that it was apart from. -/
theorem broken_collapse (h : Broken s) : Broken (collapse s) := by
  obtain ⟨before, after, rfl, hdigits⟩ := h
  refine ⟨collapse before, collapse after, collapse_append_cons (by decide) before after, ?_⟩
  rintro ⟨b, x, y, rest, hafter, hb⟩
  have hx : x ≠ '/' := hb.high.ne_of_hexDigit? rfl
  have hy : y ≠ '/' := hb.low.ne_of_hexDigit? rfl
  obtain ⟨after, rfl, hrest⟩ := eq_cons_of_collapse hx hafter
  obtain ⟨after, rfl, -⟩ := eq_cons_of_collapse hy hrest
  exact hdigits ⟨b, x, y, after, rfl, hb⟩

theorem isUtf8_slash_cons {p : List UInt8} :
    IsUtf8 (p ++ 0x2F :: 0x2F :: bs) ↔ IsUtf8 (p ++ 0x2F :: bs) := by
  have hslash : (0x2F : UInt8).toNat < 0x80 := by decide
  have hafter : IsUtf8 (0x2F :: bs) ↔ IsUtf8 bs :=
    (Text.Utf8.isUtf8_append_cons_iff (p := []) hslash).trans (and_iff_right ⟨[], rfl⟩)
  rw [Text.Utf8.isUtf8_append_cons_iff hslash, Text.Utf8.isUtf8_append_cons_iff hslash, hafter]

/-- A slash more or less makes no text of bytes that are none. -/
theorem standsFor_collapse (h : StandsFor s bs) :
    ∃ bs', StandsFor (collapse s) bs' ∧ ∀ p, IsUtf8 (p ++ bs') ↔ IsUtf8 (p ++ bs) := by
  induction h with
  | nil => exact ⟨[], .nil, fun _ => Iff.rfl⟩
  | @escape b x y s bs hdigits _ ih =>
    obtain ⟨bs', hbs', hutf8⟩ := ih
    have hx : x ≠ '/' := hdigits.high.ne_of_hexDigit? rfl
    have hy : y ≠ '/' := hdigits.low.ne_of_hexDigit? rfl
    refine ⟨b :: bs', ?_, fun p => ?_⟩
    · rw [collapse_cons_of_ne (by decide), collapse_cons_of_ne hx, collapse_cons_of_ne hy]
      exact .escape hdigits hbs'
    · simpa using hutf8 (p ++ [b])
  | @kept c s bs hc hs ih =>
    obtain ⟨bs', hbs', hutf8⟩ := ih
    by_cases hrun : c = '/' ∧ s.head? = some '/'
    · obtain ⟨rfl, hhead⟩ := hrun
      obtain ⟨s, rfl⟩ := List.head?_eq_some_iff.1 hhead
      cases hs with
      | @kept _ _ bs _ hs =>
        -- The slash that is dropped and the one after it are one byte each.
        refine ⟨bs', by rwa [collapse_slash_slash], fun p => (hutf8 p).trans ?_⟩
        exact isUtf8_slash_cons.symm
    · refine ⟨String.utf8EncodeChar c ++ bs', ?_, fun p => ?_⟩
      · rw [collapse_cons fun d hd hboth => hrun ⟨hboth.1, by rw [hd, hboth.2]⟩]
        exact .kept hc hbs'
      · simpa using hutf8 (p ++ String.utf8EncodeChar c)

/-- Escapes that cannot be undone cannot be undone after collapsing either. -/
theorem unreadable_collapse (h : Unreadable s) : Unreadable (collapse s) := by
  rcases h with hbroken | ⟨bs, hbs, hutf8⟩
  · exact .inl (broken_collapse hbroken)
  · obtain ⟨bs', hbs', hsame⟩ := standsFor_collapse hbs
    exact .inr ⟨bs', hbs', fun h => hutf8 ((hsame []).1 h)⟩

/-- What a path is read as: its runs of slashes are collapsed and then its escapes undone, if they can be. -/
def ReadAs (path info : String) : Prop :=
  StandsFor (collapse path.toList) (info.toList.flatMap String.utf8EncodeChar) ∨
    Unreadable (collapse path.toList) ∧ info.toList = collapse path.toList

theorem readAs_iff {info : String} :
    ReadAs path info ↔ info = String.ofList (Text.Escape.decode (collapse path.toList)) := by
  rw [ReadAs, ← Text.Escape.decode_eq_iff, ← String.toList_inj, String.toList_ofList, eq_comm]

theorem collapse_slash_of_not_mem (h : '/' ∉ s) : collapse ('/' :: s) = '/' :: s := by
  have hapart : ∀ d ∈ s.head?, Apart '/' d := fun d hd hboth =>
    h (hboth.2 ▸ List.mem_of_mem_head? hd)
  have hself : collapse s = s :=
    collapse_eq_self_iff.2 fun hrun => h (List.IsInfix.subset hrun List.mem_cons_self)
  rw [collapse_cons hapart, hself]

/-- **Path info undoes escapes**, all of them or none. What follows a tidy front after one slash, encoded
as a whole, is given back with whatever slashes it had. Where escapes cannot be undone, path info is what
follows the front, and of any path what is left of it once it is collapsed. -/
theorem info?_undoes_escapes :
    (∀ matched s e : String, Tidy matched → Encodes s.toList e.toList →
      info? (matched ++ "/" ++ e) matched = some ("/" ++ s)) ∧
    (∀ matched rest : String, Tidy matched → Unreadable rest.toList →
      info? (matched ++ rest) matched = some (String.ofList (collapse rest.toList))) ∧
    (∀ path matched rest : String, collapse path.toList = (matched ++ rest).toList →
      Unreadable rest.toList → info? path matched = some rest) := by
  refine ⟨fun matched s e hmatched he => ?_, fun matched rest hmatched hrest => ?_,
    fun path matched rest hpath hrest => ?_⟩
  · have hcollapse : collapse ("/" ++ e).toList = '/' :: e.toList := by
      rw [String.toList_append]
      exact collapse_slash_of_not_mem he.slash_not_mem
    have hdecode : Text.Escape.decode ('/' :: e.toList) = '/' :: s.toList := by
      rw [Text.Escape.decode_cons_of_ne (by decide), Text.Escape.decode, he.decode?_eq, Option.getD_some]
    rw [String.append_assoc, info?_append hmatched, hcollapse, hdecode, if_neg (fun h => by simp at h)]
    exact congrArg some (String.ext (by simp))
  · rw [info?_append hmatched, (unreadable_collapse hrest).decode_eq, if_neg]
    exact fun h => hrest.ne_nil (h.1 ▸ rfl)
  · rw [String.toList_append] at hpath
    rw [info?_of_collapse hpath, hrest.decode_eq, if_neg, String.ofList_toList]
    exact fun h => hrest.ne_nil h.1

/-- Slashes in a row, a plus and a mark come back from their escapes. One broken escape, or bytes that are no
text, leave all others as they are. -/
theorem upload_unescaped :
    info? ("/files" ++ "/" ++ "a%2f%2Fb+%C3%a9%25") "/files" = some ("/" ++ "a//b+é%") ∧
      info? ("/files" ++ "//100%//%20") "/files" = some "/100%/%20" ∧
      info? ("/files" ++ "/%20%ff") "/files" = some "/%20%ff" := by
  obtain ⟨hencoded, hunreadable, -⟩ := info?_undoes_escapes
  have htidy : Tidy "/files" := by decide
  have he : Encodes "a//b+é%".toList "a%2f%2Fb+%C3%a9%25".toList := by
    refine .kept (by decide) (by decide) ?_
    refine .escaped (w := ['%', '2', 'f']) (.cons ⟨by decide, by decide⟩ .nil) ?_
    refine .escaped (w := ['%', '2', 'F']) (.cons ⟨by decide, by decide⟩ .nil) ?_
    refine .kept (by decide) (by decide) (.kept (by decide) (by decide) ?_)
    refine .escaped (w := ['%', 'C', '3', '%', 'a', '9'])
      (.cons ⟨by decide, by decide⟩ (.cons ⟨by decide, by decide⟩ .nil)) ?_
    exact .escaped (w := ['%', '2', '5']) (.cons ⟨by decide, by decide⟩ .nil) .nil
  have hbroken : Unreadable "//100%//%20".toList :=
    Text.Escape.decode?_eq_none_iff.1 (by decide +kernel)
  have hbytes : Unreadable "/%20%ff".toList := Text.Escape.decode?_eq_none_iff.1 (by decide +kernel)
  exact ⟨hencoded _ _ _ htidy he,
    (hunreadable _ _ htidy hbroken).trans (by decide +kernel),
    (hunreadable _ _ htidy hbytes).trans (by decide +kernel)⟩

end RequestDispatch.Path
