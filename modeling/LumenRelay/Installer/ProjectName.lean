import LumenRelay.Installer.Provision
import Mathlib.Data.List.DropRight

/-!
# The names of projects

A project is named after the account of the user and after a tag.  Whatever these are, the name is
one that Railway takes, and it keeps the whole tag.
-/

namespace Installation

open Lib

variable {l : List Char}

/-- A part of a name: slugs and single hyphens, with a slug at each end. -/
structure IsPart (l : List Char) : Prop where
  chars : ∀ c ∈ l, isSlug c = true ∨ c = '-'
  spaced : Rewrite.Spaced '-' l
  ne_nil : l ≠ []
  first : ∀ c ∈ l.head?, c ≠ '-'
  last : ∀ c ∈ l.getLast?, c ≠ '-'

lemma isSlug_hyphen : isSlug '-' = false := by decide

lemma ne_of_isSlug {c : Char} (hc : isSlug c = true) : c ≠ '-' := by
  rintro rfl
  exact Bool.false_ne_true (isSlug_hyphen.symm.trans hc)

lemma isPrefix_dropHyphens (l : List Char) : dropHyphens l <+: l := List.rdropWhile_prefix _ _

/-! ## Parts -/

/-- Slugs make a part. -/
lemma isPart_of_slugs (hl : ∀ c ∈ l, isSlug c = true) (hne : l ≠ []) : IsPart l where
  chars c hc := .inl (hl c hc)
  spaced := Rewrite.spaced_of_notMem fun hmem => ne_of_isSlug (hl _ hmem) rfl
  ne_nil := hne
  first c hc := ne_of_isSlug (hl c (List.mem_of_mem_head? hc))
  last c hc := ne_of_isSlug (hl c (List.mem_of_getLast? hc))

/-- What starts like a part is one without the hyphens at its end. -/
lemma isPart_dropHyphens (hchars : ∀ c ∈ l, isSlug c = true ∨ c = '-')
    (hspaced : Rewrite.Spaced '-' l) (hfirst : ∀ c ∈ l.head?, c ≠ '-')
    (hne : dropHyphens l ≠ []) : IsPart (dropHyphens l) where
  chars c hc := hchars c ((isPrefix_dropHyphens l).subset hc)
  spaced := hspaced.prefix (isPrefix_dropHyphens l)
  ne_nil := hne
  first c hc := by
    obtain ⟨t, ht⟩ := isPrefix_dropHyphens l
    refine hfirst c ?_
    rw [← ht, List.head?_append_of_ne_nil _ hne]
    exact hc
  last c hc heq := by
    rw [List.getLast?_eq_some_getLast hne] at hc
    have hlast := List.rdropWhile_last_not (fun c => decide (c = '-')) l hne
    exact hlast (by rw [decide_eq_true_eq]; exact (Option.some.inj hc).trans heq)

/-- A part that is cut short is a part without the hyphens at its end. -/
lemma IsPart.take (h : IsPart l) {n : ℕ} (hn : 1 ≤ n) : IsPart (dropHyphens (l.take n)) := by
  obtain ⟨c, rest, rfl⟩ := List.exists_cons_of_ne_nil h.ne_nil
  obtain ⟨n, rfl⟩ := Nat.exists_eq_add_of_le' hn
  refine isPart_dropHyphens (fun c hc => h.chars c (List.mem_of_mem_take hc)) (h.spaced.take _)
    (fun d hd => h.first d hd) fun hnil => ?_
  have hall := List.rdropWhile_eq_nil_iff.mp hnil c List.mem_cons_self
  exact h.first c rfl (of_decide_eq_true hall)

/-- A part that is short enough stays as it is: its hyphens are single, and none is at its end. -/
lemma IsPart.unchanged (h : IsPart l) {n : ℕ} (hn : l.length ≤ n) :
    dropHyphens ((Rewrite.collapse (· ≠ '-') '-' l).take n) = l := by
  have hkeep : ∀ c : Char, decide (c ≠ '-') = false ↔ c = '-' := by simp
  have hend : dropHyphens l = l := by
    refine List.rdropWhile_eq_self_iff.mpr fun hne => ?_
    rw [decide_eq_true_eq]
    exact h.last _ (List.getLast?_eq_some_getLast hne)
  rw [Rewrite.collapse_of_spaced hkeep h.spaced, List.take_of_length_le hn, hend]

/-- Parts are joined by a hyphen. -/
lemma IsPart.join {l l' : List Char} (h : IsPart l) (h' : IsPart l') : IsPart (l ++ '-' :: l') where
  chars c hc := by
    rcases List.mem_append.mp hc with hc | hc
    · exact h.chars c hc
    · rcases List.mem_cons.mp hc with rfl | hc
      · exact .inr rfl
      · exact h'.chars c hc
  spaced := by
    refine h.spaced.append (List.isChain_cons.mpr ⟨fun c hc _ => h'.first c hc, h'.spaced⟩) ?_
    intro c hc d _ heq
    exact absurd heq (h.last c hc)
  ne_nil := by simp
  first c hc := by
    rw [List.head?_append_of_ne_nil _ h.ne_nil] at hc
    exact h.first c hc
  last c hc := by
    rw [List.getLast?_append_cons, List.getLast?_cons_of_ne_nil h'.ne_nil] at hc
    exact h'.last c hc

/-! ## The parts of a name -/

variable (sc : Script)

/-- The part for an account. -/
def ownerPart (owner : String) : List Char :=
  orText (dropHyphens ((Rewrite.collapse isSlug '-' (sc.lower owner).toList).dropWhile (· = '-')))
    "app"

/-- The tag: at most eight slugs. -/
def tagPart (entropy : String) : List Char :=
  let slug := (sc.lower (if entropy = "" then "deploy" else entropy)).toList.filter isSlug
  orText (slug.drop (slug.length - 8)) "deploy"

/-- The part for an account, cut so that the tag fits. -/
def accountPart (owner entropy : String) : List Char :=
  dropHyphens ((ownerPart sc owner).take (25 - (tagPart sc entropy).length))

lemma isPart_owner (owner : String) : IsPart (ownerPart sc owner) := by
  have happ : IsPart "app".toList :=
    isPart_of_slugs (List.all_eq_true.mp (by decide +kernel)) (by decide +kernel)
  unfold ownerPart orText
  split_ifs with hempty
  · exact happ
  · refine isPart_dropHyphens (fun c hc => ?_) ?_ (fun c hc heq => ?_) hempty
    · exact (Rewrite.mem_collapse ((List.dropWhile_suffix _).subset hc)).symm.imp_left And.right
    · exact (Rewrite.spaced_collapse isSlug_hyphen _).suffix (List.dropWhile_suffix _)
    · have hhead := List.head?_dropWhile_not (fun c => decide (c = '-'))
        (Rewrite.collapse isSlug '-' (sc.lower owner).toList)
      rw [Option.mem_def.mp hc] at hhead
      exact absurd heq (by simpa using hhead)

lemma tag_slugs (entropy : String) : (∀ c ∈ tagPart sc entropy, isSlug c = true) ∧
    tagPart sc entropy ≠ [] ∧ (tagPart sc entropy).length ≤ 8 := by
  have hdeploy : (∀ c ∈ "deploy".toList, isSlug c = true) ∧ "deploy".toList ≠ [] ∧
      "deploy".toList.length ≤ 8 :=
    ⟨List.all_eq_true.mp (by decide +kernel), by decide +kernel, by decide +kernel⟩
  have hslugs : ∀ slug : List Char, (∀ c ∈ slug, isSlug c = true) →
      (∀ c ∈ orText (slug.drop (slug.length - 8)) "deploy", isSlug c = true) ∧
        orText (slug.drop (slug.length - 8)) "deploy" ≠ [] ∧
        (orText (slug.drop (slug.length - 8)) "deploy").length ≤ 8 := by
    intro slug hslug
    unfold orText
    split_ifs with hempty
    · exact hdeploy
    · refine ⟨fun c hc => hslug c (List.mem_of_mem_drop hc), hempty, ?_⟩
      rw [List.length_drop]
      omega
  exact hslugs _ fun c hc => (List.mem_filter.mp hc).2

lemma isPart_tag (entropy : String) : IsPart (tagPart sc entropy) :=
  isPart_of_slugs (tag_slugs sc entropy).1 (tag_slugs sc entropy).2.1

/-! ## The name -/

/-- A name that Railway takes: at most 32 lower case letters, digits and single hyphens, the first a
letter and the last no hyphen. -/
structure IsProjectName (name : List Char) : Prop where
  part : IsPart name
  letter : ∃ rest, name = "lumen-".toList ++ rest
  short : name.length ≤ 32

/-- **Names of projects.**  Whatever the account and the tag are, the name is one that Railway takes:
it is made of `lumen`, of the account as far as there is room for it, and of the whole tag. -/
theorem railwayProjectName_parts (owner entropy : String) :
    IsProjectName (railwayProjectName sc owner entropy).toList ∧
      IsPart (accountPart sc owner entropy) ∧
      (railwayProjectName sc owner entropy).toList =
        "lumen".toList ++ '-' :: (accountPart sc owner entropy ++ '-' :: tagPart sc entropy) := by
  obtain ⟨-, -, hlength⟩ := tag_slugs sc entropy
  have hlimit : "lumen--".length = 7 := by decide +kernel
  have hsplit : "lumen-".toList = "lumen".toList ++ ['-'] := by decide +kernel
  have hlumen : IsPart "lumen".toList :=
    isPart_of_slugs (List.all_eq_true.mp (by decide +kernel)) (by decide +kernel)
  have hlumenLength : "lumen".toList.length = 5 := by decide +kernel
  have hname : railwayProjectName sc owner entropy =
      String.ofList (dropHyphens ((Rewrite.collapse (· ≠ '-') '-' ("lumen-".toList ++
        dropHyphens ((ownerPart sc owner).take
          (max 1 (32 - "lumen--".length - (tagPart sc entropy).length))) ++
        '-' :: tagPart sc entropy)).take 32)) := rfl
  -- a tag of at most eight characters leaves room for the account
  have hroom : max 1 (32 - "lumen--".length - (tagPart sc entropy).length) =
      25 - (tagPart sc entropy).length := by
    omega
  rw [hroom, ← accountPart] at hname
  have haccount : IsPart (accountPart sc owner entropy) := (isPart_owner sc owner).take (by omega)
  have haccountLength : (accountPart sc owner entropy).length ≤ 25 - (tagPart sc entropy).length :=
    (isPrefix_dropHyphens _).length_le.trans (List.length_take_le _ _)
  generalize accountPart sc owner entropy = account at *
  have hpart := hlumen.join (haccount.join (isPart_tag sc entropy))
  have hjoin : "lumen-".toList ++ account ++ '-' :: tagPart sc entropy =
      "lumen".toList ++ '-' :: (account ++ '-' :: tagPart sc entropy) := by
    rw [hsplit]
    simp only [List.append_assoc, List.cons_append, List.nil_append]
  rw [hjoin] at hname
  generalize hparts : "lumen".toList ++ '-' :: (account ++ '-' :: tagPart sc entropy) = name at *
  have hshort : name.length ≤ 32 := by
    rw [← hparts]
    simp only [List.length_append, List.length_cons, hlumenLength]
    omega
  rw [hpart.unchanged hshort] at hname
  rw [hname, String.toList_ofList]
  refine ⟨⟨hpart, ⟨account ++ '-' :: tagPart sc entropy, ?_⟩, hshort⟩, haccount, rfl⟩
  rw [← hparts, hsplit, List.append_assoc, List.singleton_append]

end Installation
