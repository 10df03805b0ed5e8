import ContainerLogs.Proofs.Archive.FilesToText
import ContainerLogs.Proofs.Archive.Filtering
import ContainerLogs.Proofs.FileTree.Reading

/-!
Getting one container out of an archive. What was appended for containers is found again by their
names: a dump of one name shows just the records that were appended under it, as the items that were
collected, and one of any other name shows nothing.
-/
namespace ContainerLogs.Archive

open Running
open FileTree (SameWay)
open Session (Fits)

namespace Append

variable {request : Append} {session after : Session} {collection : Collection}

/-- An append succeeds only on an open writer and under a key that can be written. -/
private theorem ready_of_perform (done : request.perform session = .ok collection after) :
    ∃ output key, session.writer.output = some output ∧ request.key.bytes = .ok key := by
  unfold perform at done
  cases opened : session.writer.output with
  | none =>
    rw [Session.append_of_closed opened] at done
    cases done
  | some output =>
    cases good : request.key.bytes with
    | error fault =>
      rw [Session.append_of_badKey opened good] at done
      cases done
    | ok key => exact ⟨output, key, rfl, rfl⟩

/-- The items of an append that succeeded fit their fields. -/
private theorem items_fit (done : request.perform session = .ok collection after) :
    ∀ item ∈ collection.items, item.Fits := by
  obtain ⟨output, key, opened, good⟩ := ready_of_perform done
  obtain ⟨collected, made⟩ := collect_of_perform opened good done
  have fits := Collector.fits_of_produce request.collector request.host request.schedule session.tree
    request.queries
  rw [Session.produce_of_collect made] at fits
  exact fits

end Append

/-- The items that were collected, each under the name of its record. -/
def itemsUnder (names : List String) (collections : List Collection) : List (String × List Item) :=
  names.zip (collections.map fun collection => collection.items)

/-- The records of one name. -/
def under (name : String) (records : List (String × List Item)) : List (String × List Item) :=
  records.filter fun record => record.1 = name

/-- There is a record under each name that items were collected for. -/
theorem under_ne_nil_iff {names : List String} {collections : List Collection}
    (same : collections.length = names.length) {name : String} :
    under name (itemsUnder names collections) ≠ [] ↔ name ∈ names := by
  have kept : (itemsUnder names collections).map Prod.fst = names :=
    List.map_fst_zip (by simp [same])
  rw [under, Ne, List.filter_eq_nil_iff]
  conv_rhs => rw [← kept, List.mem_map]
  simp

/-- Records of items as they are shown, one after the other. -/
def blocks (records : List (String × List Item)) : String :=
  String.join (records.map fun (name, items) => shownRecord name items)

section Appended

variable {names : List String} {requests : List Append} {collections : List Collection}
  {session finished : Session}

/-- Every collection of a run of appends is the result of one of them. -/
private theorem exists_perform_of_mem
    (done : requests.mapM Append.perform session = .ok collections finished) :
    ∀ collection ∈ collections, ∃ request before after,
      Append.perform request before = .ok collection after := by
  induction requests generalizing session collections with
  | nil =>
    cases done
    nofun
  | cons request requests ih =>
    rw [List.mapM_cons] at done
    obtain ⟨first, between, performed, done⟩ := ok_of_bind done
    obtain ⟨others, finished', rest, done⟩ := ok_of_bind done
    cases done
    exact List.forall_mem_cons.2 ⟨⟨request, session, between, performed⟩, ih rest⟩

private theorem keyed_injective {records records' : List (String × Bytes)}
    (same : Reader.keyed records = Reader.keyed records') : records = records' := by
  refine List.map_injective_iff.2 ?_ same
  rintro ⟨name, value⟩ ⟨name', value'⟩ alike
  cases alike
  rfl

/-- Under the names of their keys, the records of appends are those of the items collected. -/
private theorem keyed_itemsUnder
    (keys : requests.map Append.key = names.map fun name => ⟨some name⟩) :
    Reader.keyed (valued (itemsUnder names collections)) = appended requests collections := by
  have byKey : appended requests collections =
      List.zipWith (fun key collection => (key, collection.value)) (requests.map Append.key)
        collections := by
    rw [List.zipWith_map_left]
    rfl
  rw [byKey, keys]
  simp only [Reader.keyed, valued, itemsUnder, List.map_map, List.zip_map_right, List.zipWith_map_left]
  rw [List.zip, List.map_zipWith]
  rfl

end Appended

section Display

variable {records : List (String × List Item)}

/-- Records of items that fit are displayed without a fault. -/
private theorem display_valued (fits : ∀ record ∈ records, ∀ item ∈ record.2, item.Fits) :
    display (valued records) = (blocks records, .ok records.length) := by
  induction records with
  | nil => rfl
  | cons record records ih =>
    obtain ⟨name, items⟩ := record
    obtain ⟨here, others⟩ := List.forall_mem_cons.1 fits
    obtain ⟨rest, rendered, -, -⟩ := render_of_items Feed.Prompt.bytes.willing trivial here ""
      (rfl : Feed.left (Item.bytesOfAll items) = Item.bytesOfAll items)
    rw [String.empty_append] at rendered
    rw [valued, List.map_cons, display, ← valued, rendered, ih others]
    simp only [blocks, List.map_cons, String.join_cons, shownRecord, List.length_cons, Except.map]

/-- The preamble speaks of no container. -/
private theorem recordsOf_archive (identity name : String) (ordinary : Ordinary (valued records)) :
    recordsOf name ((versionName, Wire.int formatVersion) ::
        (ownerName, Text.Utf8.encode identity) :: valued records) =
      valued (under name records) := by
  have plain : ∀ record ∈ valued records, (!isReserved record.1) = true := by
    intro record among
    simp [(ordinary record among).1]
  rw [recordsOf, containers, List.filter_cons_of_neg (by simp [isReserved]),
    List.filter_cons_of_neg (by simp [isReserved]), List.filter_eq_self.2 plain, valued,
    List.filter_map]
  rfl

/-- A dump of one name shows the records of that name, whatever others there are. -/
private theorem outcome_of_archive {archive identity : String} {reader : Reader}
    (fits : ∀ record ∈ preamble identity, Fits record.1 record.2)
    (ordinary : Ordinary (valued records))
    (items : ∀ record ∈ records, ∀ item ∈ record.2, item.Fits)
    (opened : Reader.ofBytes archive
      (recordsBytes (preamble identity ++ named (valued records))) = .ok reader) (name : String) :
    (reader.dump (some name)).outcome =
      (blocks (under name records), .ok (under name records).length) := by
  let whole := (versionName, Wire.int formatVersion) :: (ownerName, Text.Utf8.encode identity) ::
    valued records
  have bytes : preamble identity ++ named (valued records) = named whole := rfl
  have parsed : Parsed archive (recordsBytes (named whole)) whole .clean := by
    refine Parsed.of_records archive ?_
    obtain ⟨version, owner, -⟩ := List.forall_mem_cons.1 fits |>.imp_right List.forall_mem_cons.1
    refine List.forall_mem_cons.2 ⟨version, List.forall_mem_cons.2 ⟨owner, ?_⟩⟩
    exact fun record among => (ordinary record among).2
  rw [bytes] at opened
  rw [Reader.outcome_of_dump_some parsed opened name, recordsOf_archive identity name ordinary]
  refine display_valued fun record among => ?_
  exact items record (List.mem_filter.1 among).1

end Display

/-- An archive is found at a path and shown name by name as these records. -/
structure Retrievable (tree : FileTree) (path : String) (records : List (String × List Item)) :
    Prop where
  readable : ∃ file, tree.openForReading path = .ok file
  shown : ∃ bytes reader, tree.contentAt path = .ok bytes ∧ Reader.ofBytes path bytes = .ok reader ∧
    ∀ name, (reader.dump (some name)).outcome =
      (blocks (under name records), .ok (under name records).length)

/-- An archive that is found is found where names were only added. -/
theorem Retrievable.of_keeps {before after : FileTree} {path : String}
    {records : List (String × List Item)} (h : Retrievable before path records)
    (keeps : FileTree.Keeps .none before after) : Retrievable after path records := by
  obtain ⟨⟨number, opened⟩, bytes, reader, content, shown⟩ := h
  exact ⟨⟨number, keeps.openForReading opened⟩, bytes, reader,
    (keeps.contentAt opened).trans content, shown⟩

open Session in
/-- What was appended can be got by name, one name at a time. -/
theorem retrievable_of_appends {process : Process} {conditions : Conditions} {path : Path}
    {identity : String} {trace made : Trace} {writer : Writer} {names : List String}
    {requests : List Append} {collections : List Collection} {finished closed : Session}
    {journal : List LogRecord}
    (started : start process conditions path identity trace = .ok writer made)
    (keys : requests.map Append.key = names.map fun name => ⟨some name⟩)
    (calm : ∀ request ∈ requests, request.schedule.Calm)
    (done : requests.mapM Append.perform ⟨made.tree, writer, journal⟩ = .ok collections finished)
    (closing : Session.close finished = .ok () closed) :
    Retrievable closed.tree path.text (itemsUnder names collections) := by
  obtain ⟨_, owner, output, opened, rfl, fits, keeps, leads⟩ := openForReading_of_start started
  have undisturbed : Call.Undisturbed (SameWay path.text output.file) (requests.map .append)
      ⟨made.tree, writer, journal⟩ := by
    refine Call.undisturbed_of_calm (.refl _ _) _ fun request among => ?_
    obtain ⟨request, among, ⟨⟩⟩ := List.mem_map.1 among
    exact calm request among
  have begun : Keeps ⟨made.tree, writer, journal⟩ output.file owner
      (recordsBytes (preamble identity)) := keeps.of_spared rfl rfl
  obtain ⟨written, ordinary, same, ⟨next, opened'⟩, keeps', leads'⟩ :=
    appends_keep opened begun leads undisturbed done
  obtain rfl : written = valued (itemsUnder names collections) := by
    refine keyed_injective ?_
    rw [same, keyed_itemsUnder keys]
  have items : ∀ record ∈ itemsUnder names collections, ∀ item ∈ record.2, item.Fits := by
    rintro ⟨name, items⟩ among
    obtain ⟨collection, inCollections, rfl⟩ := List.mem_map.1 (List.of_mem_zip among).2
    obtain ⟨request, before, after, performed⟩ := exists_perform_of_mem done collection inCollections
    exact Append.items_fit performed
  obtain ⟨ended, beside, keeps''⟩ := close_of_open opened' keeps'
  rw [closing] at ended beside keeps''
  have leads'' : closed.tree.openForReading path.text = .ok output.file :=
    (openForReading_of_beside beside keeps' keeps'' path.text).trans leads'
  obtain ⟨reader, read, -⟩ := Reader.ofBytes_of_preamble path.text fits ordinary
  have content := contentAt_of_keeps ended keeps'' leads''
  rw [← recordsBytes_append] at content
  exact ⟨⟨_, leads''⟩, _, reader, content, read, outcome_of_archive fits ordinary items read⟩

end ContainerLogs.Archive
