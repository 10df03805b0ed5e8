import ContainerLogs.Archive.Key
import ContainerLogs.Proofs.Text.Sequence

/-!
Keys and their bytes. A key takes its name from well-formed bytes and from no others, and is written as
the same bytes again, unless its name is set aside; a key that was written is loaded as it was.
-/
namespace ContainerLogs.Archive.Key

open Text.Utf8 (Flaw WellFormed decode?_eq_none_iff decode?_eq_some encode wellFormed_iff)

/-- What loading a key from bytes comes to. -/
inductive Loads (bytes : Bytes) (key : Key) : EStateM.Result KeyFault Key Unit → Prop where
  /-- The key names the text that has these bytes, and has them itself unless that is set aside. -/
  | named {name : String} (wellFormed : WellFormed bytes) (same : encode name = bytes)
      (written : (⟨some name⟩ : Key).bytes =
        if name = "VERSION" ∨ name = "APPLICATION_OWNER" then .error (.reserved name)
        else .ok bytes) :
      Loads bytes key (.ok () ⟨some name⟩)
  | undecodable (illFormed : ¬ WellFormed bytes) : Loads bytes key (.error .undecodable key)

private theorem isReserved_iff {name : String} :
    isReserved name = true ↔ name = "VERSION" ∨ name = "APPLICATION_OWNER" :=
  decide_eq_true_iff

private theorem bytes_of_name (name : String) : (⟨some name⟩ : Key).bytes =
    if name = "VERSION" ∨ name = "APPLICATION_OWNER" then .error (.reserved name)
    else .ok (encode name) := by
  simp only [bytes, isReserved_iff]

private theorem load_encode (name : String) (key : Key) :
    load (encode name) key = .ok () ⟨some name⟩ := by
  unfold load
  rw [Text.Utf8.decode?_encode]

private theorem loads (bytes : Bytes) (key : Key) : Loads bytes key (load bytes key) := by
  by_cases wellFormed : WellFormed bytes
  · obtain ⟨name, rfl⟩ := wellFormed_iff.1 wellFormed
    rw [load_encode]
    exact .named wellFormed rfl (bytes_of_name name)
  · unfold load
    rw [decode?_eq_none_iff.2 wellFormed]
    exact .undecodable wellFormed

/-- Keys and bytes correspond exactly: bytes are loaded if and only if they are well formed, which they
are not with a flaw anywhere in them, and a key whose name is not set aside is loaded from its bytes as
it was. -/
theorem bytes_correspond :
    (∀ (bytes : Bytes) (key : Key), Loads bytes key (load bytes key)) ∧
      (∀ {flaw behind : Bytes}, Flaw flaw behind → ∀ (front : Bytes) (key : Key),
        load (front ++ (flaw ++ behind)) key = .error .undecodable key) ∧
      ∀ name : String, ¬ (name = "VERSION" ∨ name = "APPLICATION_OWNER") →
        ∃ bytes, (⟨some name⟩ : Key).bytes = .ok bytes ∧
          ∀ key, load bytes key = .ok () ⟨some name⟩ := by
  refine ⟨loads, fun flawed front key => ?_, fun name free => ?_⟩
  · unfold load
    rw [decode?_eq_none_iff.2 (flawed.not_wellFormed front)]
  · refine ⟨encode name, ?_, load_encode name⟩
    rw [bytes_of_name, if_neg free]

end ContainerLogs.Archive.Key
