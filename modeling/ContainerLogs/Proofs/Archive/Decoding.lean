import ContainerLogs.Proofs.Archive.Rendering
import ContainerLogs.Proofs.Text.IllFormed

/-!
Contents as text. A content is decoded piece by piece, and what the pieces show together is what the
whole content shows: each character where its octets stand, and one U+FFFD for each longest ill-formed
part.
-/
namespace ContainerLogs.Archive

open Text.Utf8 (Reads decodeLenient encode reads_iff remaining shownInPieces shownInPieces_eq)

/-- However bytes are cut into pieces, the pieces show the one reading that the bytes have, which is
the text that they encode if they encode one; so do the pieces in which a content is copied. -/
theorem decoded_whole :
    (∀ pieces : List Bytes, ∃ units, (∀ others, Reads pieces.flatten others ↔ others = units) ∧
        shownInPieces .start pieces = String.ofList (units.map (Option.getD · '\uFFFD')) ∧
        shownInPieces .start pieces = decodeLenient pieces.flatten) ∧
      (∀ (pieces : List Bytes) (text : String), pieces.flatten = encode text →
        shownInPieces .start pieces = text) ∧
      ∀ {σ : Type} [Feed σ] {kind : σ → Prop} {feed : σ} {content tail : Bytes} (out : String),
        Feed.Willing kind → kind feed → Feed.left feed = content ++ tail →
          ∃ rest, copyText content.length .start out feed =
              ⟨out ++ decodeLenient content, none, rest⟩ ∧ Feed.left rest = tail := by
  refine ⟨fun pieces => ?_, fun pieces text same => ?_, ?_⟩
  · exact ⟨remaining .start pieces.flatten, fun others => reads_iff, shownInPieces_eq .start pieces,
      shownInPieces_eq .start pieces⟩
  · rw [shownInPieces_eq, same]
    exact Text.Utf8.decodeLenient_encode text
  · intro σ _ kind feed content tail out willing here holds
    obtain ⟨rest, copied, ended, -⟩ := copyText_of_left willing here .start out holds
    exact ⟨rest, copied, ended⟩

/-- Three octets of a character of four are cut in two and stand for one hole. -/
example : shownInPieces .start [[0xF0, 0x9F], [0x98, 0x41], []] = "\uFFFDA" := by decide

end ContainerLogs.Archive
