import ApiForge.Proofs.Publishing.Listed

/-!
# Damaged manifests

A listing has one entry for each visible folder: with its manifest where the
manifest's file is the record of one, and without a manifest where there is no
such file or it is anything else. A file whose bytes are no text is the one
damage that no entry shows: there is no listing at all then.
-/

namespace ApiForge.Listing

variable {disk : Disk} {root : Path} {entries inside : Folder} {manifest : Manifest}

/-- If the folder has a file for the manifest, the file's bytes are a text. -/
def HasTextManifest (inside : Folder) : Prop :=
  ∀ bytes, Keyed.find? Publication.manifestFile inside = some (.file bytes) →
    (Utf8.decodeStrict? bytes).isSome = true

/-- The folder has a file for the manifest, and the file's text is a document without half pairs
that is the record of the manifest. -/
def HoldsManifest (inside : Folder) (manifest : Manifest) : Prop :=
  ∃ bytes text value, Keyed.find? Publication.manifestFile inside = some (.file bytes) ∧
    Utf8.decodeStrict? bytes = some text ∧ Json.read (Disk.unifyLineEnds text) = .ok value ∧
    Manifest.holdsLoneSurrogate value = false ∧ Manifest.read value = .ok manifest

/-- The visible folders among the entries in the strict order of their names, each with the manifest
that it holds, if it holds one. -/
structure IsListing (entries : Folder) (listed : List (Text × Option Manifest)) : Prop where
  sorted : listed.Pairwise fun one other => Text.isBefore one.1 other.1 = true
  whole : ∀ name manifest, (name, some manifest) ∈ listed ↔ name.startsWith ['.'] = false ∧
    ∃ inside, (name, .folder inside) ∈ entries ∧ HoldsManifest inside manifest
  damaged : ∀ name, (name, none) ∈ listed ↔ name.startsWith ['.'] = false ∧
    ∃ inside, (name, .folder inside) ∈ entries ∧ ∀ manifest, ¬ HoldsManifest inside manifest

/-! ## One folder -/

theorem ofText?_eq_some_iff {text : Text} :
    Manifest.ofText? text = some manifest ↔ ∃ value, Json.read text = .ok value ∧
      Manifest.holdsLoneSurrogate value = false ∧ Manifest.read value = .ok manifest := by
  unfold Manifest.ofText?
  constructor
  · intro read
    split at read
    · cases read
    · next value found =>
        split at read
        · cases read
        · next whole => exact ⟨value, found, eq_false_of_ne_true whole, Success.of_toOption read⟩
  · rintro ⟨value, found, whole, read⟩
    rw [found]
    dsimp only
    rw [whole, read]
    rfl

/-- In a folder without a file for the manifest no manifest is found, and the folder holds none. -/
theorem manifestIn_of_no_file
    (noFile : ∀ bytes, Keyed.find? Publication.manifestFile inside ≠ some (.file bytes)) :
    manifestIn inside = .ok none ∧ ∀ manifest, ¬ HoldsManifest inside manifest := by
  refine ⟨?_, fun manifest ⟨bytes, _, _, found, _⟩ => noFile bytes found⟩
  unfold manifestIn
  split
  · next bytes found => exact absurd found (noFile bytes)
  · rfl

/-- If the manifest is text, the manifest that the folder holds is found. -/
theorem exists_manifestIn (isText : HasTextManifest inside) :
    ∃ found, manifestIn inside = .ok found ∧
      ∀ manifest, found = some manifest ↔ HoldsManifest inside manifest := by
  by_cases file : ∃ bytes, Keyed.find? Publication.manifestFile inside = some (.file bytes)
  · obtain ⟨bytes, here⟩ := file
    obtain ⟨text, decoded⟩ := Option.isSome_iff_exists.mp (isText bytes here)
    refine ⟨Manifest.ofText? (Disk.unifyLineEnds text), ?_, fun manifest => ?_⟩
    · unfold manifestIn Disk.textOf
      rw [here]
      dsimp only
      rw [decoded]
      rfl
    · rw [ofText?_eq_some_iff]
      constructor
      · rintro ⟨value, read, whole, record⟩
        exact ⟨bytes, text, value, here, decoded, read, whole, record⟩
      · rintro ⟨other, otherText, value, there, otherDecoded, read, whole, record⟩
        cases here.symm.trans there
        cases decoded.symm.trans otherDecoded
        exact ⟨value, read, whole, record⟩
  · obtain ⟨nothing, holdsNone⟩ := manifestIn_of_no_file (not_exists.mp file)
    exact ⟨none, nothing, fun manifest => ⟨nofun, fun holds => absurd holds (holdsNone manifest)⟩⟩

/-- Bytes that are no text are not foreseen. -/
theorem manifestIn_of_no_text (noText : ¬ HasTextManifest inside) :
    manifestIn inside = .error .unforeseen := by
  unfold HasTextManifest at noText
  push Not at noText
  obtain ⟨bytes, here, unread⟩ := noText
  unfold manifestIn Disk.textOf
  rw [here]
  dsimp only
  rw [Option.not_isSome_iff_eq_none.mp unread]
  rfl

/-! ## All folders -/

/-- The entries of a folder of a proper tree have distinct names. -/
theorem distinct_of_folder? (proper : disk.top.IsProper)
    (found : disk.folder? root = .ok (some entries)) : (entries.map (·.1)).Nodup := by
  obtain ⟨node, looked, isFolder⟩ := Success.of_map found
  unfold Disk.look at looked
  split at looked
  · next names located =>
      cases looked
      split at isFolder
      · next inside here =>
          cases isFolder
          exact (proper.get? here).distinct
      · cases isFolder
  · cases looked
  · cases looked
    cases isFolder

/-- A traversal in which some step fails ends as that step does if all that fail end alike. -/
theorem mapM_eq_error {ε α β : Type} {step : α → Except ε β} {list : List α} {fault : ε}
    (alike : ∀ item ∈ list, (∃ result, step item = .ok result) ∨ step item = .error fault)
    {failing : α} (member : failing ∈ list) (fails : step failing = .error fault) :
    list.mapM step = .error fault := by
  induction list with
  | nil => cases member
  | cons first rest ih =>
      rw [List.mapM_cons]
      rcases alike first List.mem_cons_self with ⟨result, returned⟩ | failed
      · have inRest : failing ∈ rest := by
          refine (List.mem_cons.mp member).resolve_left ?_
          rintro rfl
          cases returned.symm.trans fails
        rw [returned, ih (fun item other => alike item (List.mem_cons_of_mem _ other)) inRest]
        rfl
      · rw [failed]
        rfl

/-- The manifest that is found in a folder, none if it cannot be looked for. -/
def foundIn (inside : Folder) : Option Manifest :=
  match manifestIn inside with
  | .ok found => found
  | .error _ => none

/-- What is shown of the folder with a name among the entries. -/
def shownAmong (entries : Folder) (name : Text) : Option Manifest :=
  match Keyed.find? name entries with
  | some (.folder inside) => foundIn inside
  | _ => none

theorem shownAmong_of_mem (distinct : (entries.map (·.1)).Nodup) {name : Text}
    (member : (name, .folder inside) ∈ entries) : shownAmong entries name = foundIn inside := by
  rw [shownAmong, (Keyed.find?_eq_some_iff distinct).mpr member]

theorem foundIn_eq_some_iff (isText : HasTextManifest inside) :
    foundIn inside = some manifest ↔ HoldsManifest inside manifest := by
  obtain ⟨found, looked, holds⟩ := exists_manifestIn isText
  rw [foundIn, looked]
  exact holds manifest

theorem foundIn_eq_none_iff (isText : HasTextManifest inside) :
    foundIn inside = none ↔ ∀ manifest, ¬ HoldsManifest inside manifest := by
  rw [Option.eq_none_iff_forall_ne_some]
  exact forall_congr' fun manifest => not_congr (foundIn_eq_some_iff isText)

/-- Each visible folder has an entry with what is found in it. -/
theorem mem_shown (distinct : (entries.map (·.1)).Nodup) {name : Text} {found : Option Manifest} :
    (name, found) ∈ (Text.sortBy (·.1) (clients entries)).map (fun client =>
        (client.1, shownAmong entries client.1)) ↔
      ∃ inside, (name, inside) ∈ clients entries ∧ found = foundIn inside := by
  rw [mem_listed]
  constructor
  · rintro ⟨⟨inside, member⟩, shown⟩
    exact ⟨inside, member, shown.trans (shownAmong_of_mem distinct (mem_clients.mp member).1)⟩
  · rintro ⟨inside, member, shown⟩
    exact ⟨⟨inside, member⟩,
      shown.trans (shownAmong_of_mem distinct (mem_clients.mp member).1).symm⟩

/-- If every manifest is text, there is a listing. -/
theorem exists_listing (distinct : (entries.map (·.1)).Nodup)
    (texts : ∀ client ∈ clients entries, HasTextManifest client.2) :
    ∃ listed, ofFolder entries = .ok listed ∧ IsListing entries listed := by
  have read : ∀ client ∈ clients entries,
      manifestIn client.2 = .ok (shownAmong entries client.1) := by
    intro client member
    obtain ⟨found, looked, _⟩ := exists_manifestIn (texts client member)
    rw [shownAmong_of_mem distinct (mem_clients.mp member).1, foundIn, looked]
  refine ⟨_, ofFolder_eq read, pairwise_listed distinct _, fun name manifest => ?_, fun name => ?_⟩
  · rw [mem_shown distinct]
    constructor
    · rintro ⟨inside, member, shown⟩
      obtain ⟨among, visible⟩ := mem_clients.mp member
      exact ⟨visible, inside, among, (foundIn_eq_some_iff (texts _ member)).mp shown.symm⟩
    · rintro ⟨visible, inside, among, holds⟩
      have member : (name, inside) ∈ clients entries := mem_clients.mpr ⟨among, visible⟩
      exact ⟨inside, member, ((foundIn_eq_some_iff (texts _ member)).mpr holds).symm⟩
  · rw [mem_shown distinct]
    constructor
    · rintro ⟨inside, member, shown⟩
      obtain ⟨among, visible⟩ := mem_clients.mp member
      exact ⟨visible, inside, among, (foundIn_eq_none_iff (texts _ member)).mp shown.symm⟩
    · rintro ⟨visible, inside, among, holdsNone⟩
      have member : (name, inside) ∈ clients entries := mem_clients.mpr ⟨among, visible⟩
      exact ⟨inside, member, ((foundIn_eq_none_iff (texts _ member)).mpr holdsNone).symm⟩

/-- If some manifest is no text, nothing is listed. -/
theorem ofFolder_of_no_text {name : Text} (member : (name, inside) ∈ clients entries)
    (noText : ¬ HasTextManifest inside) : ofFolder entries = .error .unforeseen := by
  unfold ofFolder
  refine mapM_eq_error ?_ ((Text.mem_sortBy _ _).mpr member) ?_
  · rintro ⟨other, otherInside⟩ _
    by_cases isText : HasTextManifest otherInside
    · obtain ⟨found, looked, _⟩ := exists_manifestIn isText
      exact .inl ⟨(other, found), by dsimp only; rw [looked]; rfl⟩
    · exact .inr (by dsimp only; rw [manifestIn_of_no_text isText]; rfl)
  · dsimp only
    rw [manifestIn_of_no_text noText]
    rfl

/-- A root is listed exactly if each of its visible folders has a manifest of text or none, and then
each of them has its entry; one manifest that is no text hides them all. -/
theorem ofRoot_of_folder (proper : disk.top.IsProper)
    (found : disk.folder? root = .ok (some entries)) :
    ((∀ client ∈ clients entries, HasTextManifest client.2) →
      ∃ listed, ofRoot disk root = .ok listed ∧ IsListing entries listed) ∧
    ((∃ client ∈ clients entries, ¬ HasTextManifest client.2) →
      ofRoot disk root = .error .unforeseen) := by
  have same : ofRoot disk root = ofFolder entries := by
    rw [ofRoot, found]
    rfl
  rw [same]
  exact ⟨exists_listing (distinct_of_folder? proper found),
    fun ⟨_, member, noText⟩ => ofFolder_of_no_text member noText⟩

/-- A sound manifest. -/
def soundManifest : Manifest :=
  ⟨"pets", "Pets", "1", none, "a.json", none, "2026", [], ⟨1, 0, 0⟩⟩

/-- A folder with something in the place of its manifest. -/
def holding (node : Node) : Node :=
  .folder [(Publication.manifestFile, node)]

/-- Clients with a sound manifest, with one of the given bytes, with none and with a folder in its
place, and besides them what is no client. -/
def mixedEntries (bytes : List UInt8) : Folder :=
  [("pets", holding (.file (soundManifest.stored.flatMap Utf8.encodeChar))),
    ("odd", holding (.file bytes)), ("bare", .folder []), ("deep", holding (.folder [])),
    (".pets.k.staging", holding (.file [0xFF])), ("notes.txt", .file [0xFF])]

/-- A disk with these clients in the current folder. -/
def mixedShelf (bytes : List UInt8) : Disk :=
  ⟨.folder (mixedEntries bytes), []⟩

instance (inside : Folder) : Decidable (HasTextManifest inside) :=
  match found : Keyed.find? Publication.manifestFile inside with
  | some (.file bytes) =>
      decidable_of_iff ((Utf8.decodeStrict? bytes).isSome = true)
        ⟨fun isText other same => by cases found.symm.trans same; exact isText,
          fun texts => texts bytes found⟩
  | some (.folder _) => .isTrue fun _ same => nomatch found.symm.trans same
  | none => .isTrue fun _ same => nomatch found.symm.trans same

theorem isProper_mixedShelf (bytes : List UInt8) : (mixedShelf bytes).top.IsProper := by
  have held {node : Node} (proper : node.IsProper) : (holding node).IsProper := by
    refine .folder (by simp) fun entry member => ?_
    rw [List.mem_singleton.mp member]
    exact proper
  have bare : (Node.folder []).IsProper := .folder List.nodup_nil fun _ none => nomatch none
  have names : (mixedEntries bytes).map (·.1) =
      ["pets".toList, "odd".toList, "bare".toList, "deep".toList, ".pets.k.staging".toList,
        "notes.txt".toList] := rfl
  refine .folder (names ▸ by decide) fun entry member => ?_
  simp only [mixedEntries, List.mem_cons, List.not_mem_nil, or_false] at member
  rcases member with rfl | rfl | rfl | rfl | rfl | rfl
  · exact held (.file _)
  · exact held (.file _)
  · exact bare
  · exact held bare
  · exact held (.file _)
  · exact .file _

/-- Beside a manifest that is an open brace all clients are listed. -/
theorem ofRoot_of_brace :
    (mixedShelf [0x7B]).top.IsProper ∧
      (mixedShelf [0x7B]).folder? (.ofText ".") = .ok (some (mixedEntries [0x7B])) ∧
      (∀ client ∈ clients (mixedEntries [0x7B]), HasTextManifest client.2) ∧
      ∃ listed, ofRoot (mixedShelf [0x7B]) (.ofText ".") = .ok listed ∧
        IsListing (mixedEntries [0x7B]) listed := by
  have proper := isProper_mixedShelf [0x7B]
  have found : (mixedShelf [0x7B]).folder? (.ofText ".") = .ok (some (mixedEntries [0x7B])) := rfl
  have texts : ∀ client ∈ clients (mixedEntries [0x7B]), HasTextManifest client.2 := by
    decide +kernel
  exact ⟨proper, found, texts, (ofRoot_of_folder proper found).1 texts⟩

/-- Beside a manifest that is one byte and no text no client is listed, also not one whose manifest
is sound. -/
theorem ofRoot_of_byte :
    manifestAt (mixedShelf [0xFF]) (.ofText "pets") = .ok (some soundManifest) ∧
      ¬ ∃ listed, ofRoot (mixedShelf [0xFF]) (.ofText ".") = .ok listed := by
  have sound : manifestAt (mixedShelf [0xFF]) (.ofText "pets") = .ok (some soundManifest) := by
    decide +kernel
  have member : ("odd".toList, [(Publication.manifestFile, Node.file [0xFF])]) ∈
      clients (mixedEntries [0xFF]) := mem_clients.mpr ⟨by simp [mixedEntries, holding], by decide⟩
  have lost : ofRoot (mixedShelf [0xFF]) (.ofText ".") = .error .unforeseen :=
    ofFolder_of_no_text member (by decide +kernel)
  exact ⟨sound, fun ⟨_, listed⟩ => nomatch lost.symm.trans listed⟩

end ApiForge.Listing
