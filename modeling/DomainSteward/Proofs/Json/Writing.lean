import DomainSteward.Json.Basic
import DomainSteward.Proofs.Json.Acceptance
import Mathlib.Data.List.Basic
import Mathlib.Data.List.Forall2

/-! Written values are texts of the grammar. -/
namespace DomainSteward.Writing
open Json Tree Grammar Acceptance Literals

/-- The characters write the tree, whatever follows them that could not continue a number. -/
def Spelled (text : List Char) (tree : Tree) : Prop := ∀ r, Ends r → Value (text ++ r) tree r

/-! ## Strings -/

theorem hex_digit_written : ∀ n < 16, (Json.hexDigit n, n) ∈ hexDigits := by decide

theorem character_written (c : Char) (r : List Char) : Letter (escapeChar c ++ r) c r := by
  unfold escapeChar
  split_ifs with quote backslash line back tab bell feed control
  -- First come the characters that have a short escape.
  iterate 7
    · subst c
      exact .char (.short (by decide))
  · refine .unit ?_
    have zero := hex_digit_written 0 (by decide)
    have written := Writes.hex (r := r) zero zero (hex_digit_written (c.toNat / 16) (by omega))
      (hex_digit_written (c.toNat % 16) (by omega))
    have number : ((0 * 16 + 0) * 16 + c.toNat / 16) * 16 + c.toNat % 16 = c.toNat := by omega
    rwa [number] at written
  · exact .char (.plain quote backslash (Nat.not_lt.mp control))

theorem characters_written (cs r : List Char) : Letters (cs.flatMap escapeChar ++ r) cs r := by
  induction cs with
  | nil => exact .nil
  | cons c cs ih =>
    rw [List.flatMap_cons, List.append_assoc]
    exact .cons (character_written c _) ih

theorem string_written (s : String) (r : List Char) :
    ∃ rest, renderText s ++ r = '"' :: rest ∧ Quoted rest (some s) r := by
  refine ⟨s.toList.flatMap escapeChar ++ '"' :: r, by simp [renderText], ?_⟩
  have quoted := Quoted.whole (characters_written s.toList ('"' :: r))
  rwa [String.ofList_toList] at quoted

theorem text_spelled (s : String) : Spelled (Json.text s).chars (.text (some s)) := by
  intro r _
  obtain ⟨rest, quote, quoted⟩ := string_written s r
  rw [Json.chars, quote]
  exact .text quoted

/-! ## Integers -/

/-- No number but zero is written with a zero in front. -/
theorem no_zero_in_front {n : Nat} (positive : n ≠ 0) : (Nat.toDigits 10 n).head? ≠ some '0' := by
  induction n using Nat.strong_induction_on with
  | _ n ih =>
    rcases Nat.lt_or_ge n 10 with digit | more
    · have single : ∀ d < 10, d ≠ 0 → d.digitChar ≠ '0' := by decide
      rw [Nat.toDigits_of_lt_base digit, List.head?_cons]
      exact fun zero => single n digit positive (Option.some_inj.mp zero)
    · rw [Nat.toDigits_of_base_le (by decide) more,
        List.head?_append_of_ne_nil _ Nat.toDigits_ne_nil]
      exact ih (n / 10) (by omega) (by omega)

theorem digits_written (n : Nat) (r : List Char) :
    Digits (Nat.toDigits 10 n ++ r) (Nat.toDigits 10 n) r :=
  ⟨rfl, Nat.toDigits_ne_nil, fun _ => Nat.isDigit_of_mem_toDigits (by decide) (by decide)⟩

theorem magnitude_written (negative : Bool) (n : Nat) (r : List Char) :
    Unsigned negative (Nat.toDigits 10 n ++ r)
      (numberOf negative (Nat.toDigits 10 n) [] none) r := by
  refine .mk (digits_written n r) ?_ .absent .absent
  by_cases zero : n = 0
  · subst zero
    exact .inl rfl
  · exact .inr (no_zero_in_front zero)

/-- Only a zero with a sign is no integer. -/
theorem integer_of_digits {negative : Bool} {n : Nat} (signed : negative = true → n ≠ 0) :
    numberOf negative (Nat.toDigits 10 n) [] none =
      .ofInt (if negative = true then -(n : Int) else n) := by
  have value : Nat.ofDigitChars 10 (Nat.toDigits 10 n) 0 = n :=
    Nat.ofDigitChars_toDigits (by decide) (by decide)
  dsimp only [numberOf]
  rw [List.append_nil, value]
  cases negative with
  | false => rfl
  | true =>
    have nonzero : ((n : Int) == 0) = false :=
      beq_eq_false_iff_ne.mpr (Int.natCast_ne_zero.mpr (signed rfl))
    rw [nonzero]
    rfl

theorem integer_spelled (n : Int) : Spelled (Json.ofInt n).chars (.number (.ofInt n)) := by
  intro r _
  show Value (renderInt n ++ r) _ r
  unfold renderInt
  split_ifs with negative
  · have written := magnitude_written true n.natAbs r
    have nonzero : n.natAbs ≠ 0 := by omega
    have number : -(n.natAbs : Int) = n := by omega
    rw [integer_of_digits fun _ => nonzero, if_pos rfl, number] at written
    exact .number (.minus written)
  · have written := magnitude_written false n.natAbs r
    have number : (n.natAbs : Int) = n := by omega
    have unsigned : false = true → n.natAbs ≠ 0 := fun signed => absurd signed Bool.false_ne_true
    rw [integer_of_digits unsigned, if_neg Bool.false_ne_true, number] at written
    exact .number (.plain written)

/-! ## Arrays and objects -/

/-- The member is what a field is written as. -/
inductive Written : String × Json → Option String × Tree → Prop where
  | mk (spelled : Spelled value.chars tree) : Written (name, value) (some name, tree)

variable {value : Json} {tree : Tree} {c : Char} {r : List Char}

theorem element_written (spelled : Spelled value.chars tree) (close : c ∈ [',', ']', '}'])
    (r : List Char) : Element (value.chars ++ c :: r) tree (c :: r) :=
  .mk .nil (spelled _ (closed_ends (closed_cons close) .nil)) .nil

theorem items_written {item : Json} {items : List Json} {first : Tree} {trees : List Tree}
    (head : Spelled item.chars first)
    (tail : List.Forall₂ (fun value tree => Spelled value.chars tree) items trees) :
    Items (itemChars (item :: items) ++ r) (first :: trees) r := by
  induction tail generalizing item first with
  | nil =>
    rw [itemChars, List.append_assoc]
    exact .last (element_written head (by decide) r)
  | cons next _ ih =>
    rw [itemChars, List.append_assoc]
    · exact .more (element_written head (by decide) _) (ih next)
    · simp

theorem list_spelled {items : List Json} {trees : List Tree}
    (each : List.Forall₂ (fun value tree => Spelled value.chars tree) items trees) :
    Spelled (Json.list items).chars (.list trees) := by
  intro r _
  rw [Json.chars]
  cases each with
  | nil => exact .emptyList .nil
  | cons head tail => exact .list (items_written head tail)

theorem name_written (name : String) (r : List Char) :
    Name (renderText name ++ r) (some name) r := by
  obtain ⟨rest, quote, quoted⟩ := string_written name r
  exact .mk (quote ▸ .nil) quoted .nil

theorem members_written {field : String × Json} {fields : List (String × Json)}
    {first : Option String × Tree} {members : List (Option String × Tree)}
    (head : Written field first) (tail : List.Forall₂ Written fields members) :
    Members (fieldChars (field :: fields) ++ r) (first :: members) r := by
  induction tail generalizing field first with
  | nil =>
    obtain ⟨spelled⟩ := head
    rw [fieldChars, List.append_assoc, List.cons_append, List.append_assoc]
    exact .last (name_written _ _) (element_written spelled (by decide) r)
  | cons next _ ih =>
    obtain ⟨spelled⟩ := head
    rw [fieldChars, List.append_assoc, List.cons_append, List.append_assoc]
    · exact .more (name_written _ _) (element_written spelled (by decide) _) (ih next)
    · simp

theorem object_spelled {fields : List (String × Json)} {members : List (Option String × Tree)}
    (each : List.Forall₂ Written fields members) :
    Spelled (Json.object fields).chars (.object members) := by
  intro r _
  rw [Json.chars]
  cases each with
  | nil => exact .emptyObject .nil
  | cons head tail => exact .object (members_written head tail)

theorem render_spells (spelled : Spelled value.chars tree) : Spells value.render tree := by
  have core := spelled [] ⟨by rintro _ ⟨⟩, by rintro _ ⟨⟩⟩
  rw [List.append_nil] at core
  rw [Spells, Json.render, String.toList_ofList]
  exact .mk .nil core .nil

end DomainSteward.Writing
