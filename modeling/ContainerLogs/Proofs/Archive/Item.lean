import ContainerLogs.Archive.Item
import ContainerLogs.Proofs.Wire.Integer

/-!
What is written of an item. If its lengths fit their fields, that is all of it; otherwise it is what
stands before the first length that does not fit.
-/
namespace ContainerLogs.Archive.Item

/-- The lengths in an item fit their fields, as they must to be written. -/
def Fits : Item → Prop
  | entry name content =>
      Wire.fits Wire.intWidth (Text.Utf8.encode name).length = true ∧
        Wire.fits Wire.longWidth content.length = true
  | diagnostic message => Wire.fits Wire.intWidth (Text.Utf8.encode message).length = true

instance : DecidablePred Fits
  | entry .. => inferInstanceAs (Decidable (_ ∧ _))
  | diagnostic _ => inferInstanceAs (Decidable (_ = true))

theorem int?_diagnosticMark : Wire.int? diagnosticMark = .ok (Wire.int diagnosticMark) :=
  Wire.int?_of_fits (by decide)

theorem written_of_fits {item : Item} (fit : item.Fits) : item.written = (item.bytes, none) := by
  cases item with
  | entry name content =>
    simp [written, parts, entryParts, writtenOf, bytes, Wire.counted?_of_fits fit.1, Wire.long?_of_fits fit.2]
  | diagnostic message =>
    simp [written, parts, writtenOf, bytes, int?_diagnosticMark, Wire.counted?_of_fits fit]

theorem fits_of_written {item : Item} (whole : item.written.2 = none) : item.Fits := by
  cases item with
  | entry name content =>
    by_cases fit : Wire.fits Wire.intWidth (Text.Utf8.encode name).length = true
    · by_cases fit' : Wire.fits Wire.longWidth content.length = true
      · exact ⟨fit, fit'⟩
      · simp [written, parts, entryParts, writtenOf, Wire.counted?_of_fits fit, Wire.long?_of_unfit fit'] at whole
    · simp [written, parts, entryParts, writtenOf, Wire.counted?_of_unfit fit] at whole
  | diagnostic message =>
    by_cases fit : Wire.fits Wire.intWidth (Text.Utf8.encode message).length = true
    · exact fit
    · simp [written, parts, writtenOf, int?_diagnosticMark, Wire.counted?_of_unfit fit] at whole

end ContainerLogs.Archive.Item
