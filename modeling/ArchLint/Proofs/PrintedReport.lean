import ArchLint.Proofs.WrittenJson
import ArchLint.Report.Printer
import Mathlib.Data.List.Basic

/-!
Reports that are printed as documents. What a violation does not say is left out of its table, and
what the table leaves out is read as nothing said (`read?_toJson`). So a printed report is read back
as it was (`printed_report_is_read_back`), if its counts are numbers that documents can hold.
-/

namespace ArchLint

/-- The report that a document in JSON holds. -/
def Report.ofJson? (text : String) : Option Report :=
  (Json.readDocument? text).bind (Report.read? Json.conventions)

/-! ### Counts -/

theorem Decimal.natOfDigits_digits (n : Nat) : Decimal.natOfDigits (Decimal.digits n) = n := by
  have read : Nat.ofDigitChars 10 (Nat.toDigits 10 n) 0 = n := Nat.ofDigitChars_ten_toDigits
  rwa [Nat.ofDigitChars_eq_foldl] at read

/-- No number but zero starts with zero. -/
theorem Decimal.head?_digits_ne_zero {n : Nat} (h : n ≠ 0) :
    (Decimal.digits n).head? ≠ some '0' := by
  induction n using Nat.strongRecOn with
  | ind n ih =>
    rw [Decimal.digits, Nat.toDigits_eq_if (by decide)]
    split
    · rename_i small
      have digit : ∀ d < 10, d ≠ 0 → Nat.digitChar d ≠ '0' := by decide
      exact fun he => digit n small h (Option.some.inj he)
    · rename_i large
      have lead := ih (n / 10) (by omega) (by omega)
      obtain ⟨d, ds, hd⟩ := List.exists_cons_of_ne_nil (Nat.toDigits_ne_nil (n := n / 10) (b := 10))
      rw [Decimal.digits, hd] at lead
      rw [hd]
      exact lead

namespace Numeral

theorem isWellWritten_ofNat (n : Nat) : (ofNat n).IsWellWritten where
  whole := by
    rcases eq_or_ne n 0 with rfl | h
    · exact Or.inl rfl
    · exact Or.inr ⟨Nat.toDigits_ne_nil, Decimal.head?_digits_ne_zero h⟩
  whole_digits := fun _ hc => Nat.isDigit_of_mem_toDigits (by decide) (by decide) hc
  fraction_digits := List.forall_mem_nil _
  exponent := fun _ he => nomatch he

theorem natural?_ofNat (n : Nat) : (ofNat n).natural? = if n < word then some n else none := by
  simp [natural?, ofNat, isInteger, Decimal.natOfDigits_digits]

end Numeral

/-! ### Violations -/

theorem Json.toDocuments_eq_map : ∀ vs : List Json, toDocuments vs = vs.map toDocument
  | [] => rfl
  | v :: vs => congrArg (toDocument v :: ·) (toDocuments_eq_map vs)

theorem mapM_map_eq_some {α β γ : Type} {f : α → β} {g : β → Option γ} {k : α → γ}
    (h : ∀ a, g (f a) = some (k a)) : ∀ xs : List α, (xs.map f).mapM g = some (xs.map k)
  | [] => rfl
  | x :: xs => by
    rw [List.map_cons, List.mapM_cons, h, mapM_map_eq_some h xs]
    rfl

namespace Violation

theorem isWellWritten_toJson (v : Violation) : v.toJson.IsWellWritten := by
  obtain ⟨_, _, _, _, source, target, dependency⟩ := v
  cases source <;> cases target <;> cases dependency <;>
    simp [toJson, optionalEntry, Json.IsWellWritten, Json.EntriesWellWritten]

theorem read?_toJson (v : Violation) :
    read? Json.conventions v.toJson.toDocument = some v := by
  obtain ⟨_, severity, _, _, source, target, dependency⟩ := v
  cases severity <;> cases source <;> cases target <;> cases dependency <;> rfl

end Violation

/-! ### Reports -/

namespace Report

theorem isWellWritten_toJson (r : Report) : r.toJson.IsWellWritten := by
  have violations : ∀ vs : List Violation, Json.AllWellWritten (vs.map Violation.toJson) := by
    intro vs
    induction vs with
    | nil => trivial
    | cons v vs ih => exact ⟨v.isWellWritten_toJson, ih⟩
  exact ⟨violations r.violations, Numeral.isWellWritten_ofNat _, Numeral.isWellWritten_ofNat _,
    trivial⟩

theorem read?_toJson (r : Report) :
    read? Json.conventions r.toJson.toDocument =
      if r.filesChecked < Numeral.word ∧ r.symbolsChecked < Numeral.word then some r else none := by
  have violations : Document.asListOf? (Violation.read? Json.conventions)
      (Json.list (r.violations.map Violation.toJson)).toDocument = some r.violations := by
    have read := mapM_map_eq_some (f := fun v : Violation => v.toJson.toDocument)
      Violation.read?_toJson r.violations
    rw [List.map_id'] at read
    simpa [Document.asListOf?, Document.asList?, Json.toDocument, Json.toDocuments_eq_map,
      Function.comp_def] using read
  have fields : read? Json.conventions r.toJson.toDocument =
      (Document.asListOf? (Violation.read? Json.conventions)
        (Json.list (r.violations.map Violation.toJson)).toDocument).bind fun vs =>
      (Numeral.ofNat r.filesChecked).natural?.bind fun files =>
      (Numeral.ofNat r.symbolsChecked).natural?.bind fun symbols => some ⟨vs, files, symbols⟩ := rfl
  rw [fields, violations, Numeral.natural?_ofNat, Numeral.natural?_ofNat]
  by_cases files : r.filesChecked < Numeral.word
  · by_cases symbols : r.symbolsChecked < Numeral.word
    · simp [files, symbols]
    · simp [files, symbols]
  · simp [files]

end Report

/-- A printed report is read back as it was, whatever its texts hold and whatever its violations
leave unsaid, provided that its counts are numbers of 64 bits, as counts of files and symbols are. -/
theorem printed_report_is_read_back (r : Report) (colored : Bool) :
    Report.ofJson? (r.print .json colored) = some r ↔
      r.filesChecked < Numeral.word ∧ r.symbolsChecked < Numeral.word := by
  have blank : ∀ c ∈ "\n".toList, Json.isBlank c = true := by
    intro c hc
    obtain rfl : c = '\n' := by simpa using hc
    rfl
  have value : Json.ofText? (r.print .json colored) = some r.toJson :=
    Json.ofText?_render (Report.isWellWritten_toJson r) blank
  have report : Report.ofJson? (r.print .json colored) =
      if r.filesChecked < Numeral.word ∧ r.symbolsChecked < Numeral.word then some r else none := by
    rw [Report.ofJson?, Json.readDocument?, value, Option.map_some, Option.bind_some,
      Report.read?_toJson]
  rw [report]
  split
  · rename_i fits
    exact iff_of_true rfl fits
  · rename_i large
    exact iff_of_false nofun large

end ArchLint
