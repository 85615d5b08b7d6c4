/-
Module: ExtractOptions.Proofs.Settings.Saving
Purpose: what saving settings does to a disk. It makes the directory of the settings if that is
  missing, and puts the settings file where its path leads, whatever was there. So the file holds
  what was saved, and saving the same settings once more changes nothing.
Main exports: Disk.withDirectory, saveSettings_eq_ok_iff, fileAt?_of_saved, saveSettings_again
-/
import ExtractOptions.Proofs.Disk.Beside
import ExtractOptions.Proofs.Disk.Footprint
import ExtractOptions.Proofs.Text.Pieces
import ExtractOptions.Proofs.Text.Utf8
import ExtractOptions.Settings.Store

namespace ExtractOptions

open Text

/-! ### Paths within a directory

The settings file is named by its directory with a name behind it. The lemmas say when such a path
can be opened and where it leads. -/

namespace Text

/-- A text with a separator in it is cut on either side of that. -/
theorem pieces_append_cons (separator : Char) (before after : List Char) :
    pieces separator (before ++ separator :: after) =
      pieces separator before ++ pieces separator after := by
  induction before with
  | nil => simp [pieces]
  | cons c before ih =>
    rw [List.cons_append, pieces, pieces, ih]
    split
    · rfl
    · cases first : pieces separator before with
      | nil => exact absurd first (pieces_ne_nil separator before)
      | cons piece later => rfl

theorem pieces_of_notMem {separator : Char} {cs : List Char} (absent : separator ∉ cs) :
    pieces separator cs = [cs] := by
  induction cs with
  | nil => rfl
  | cons c cs ih =>
    rw [List.mem_cons, not_or] at absent
    rw [pieces, if_neg (Ne.symm absent.1), ih absent.2]

end Text

namespace Path

/-- The names of a text between slashes. -/
def namesOf (cs : List Char) : List String :=
  ((pieces '/' cs).filter fun name => !name.isEmpty).map String.ofList

/-- The names on both sides of a slash are those of the whole. -/
theorem namesOf_append_cons (before after : List Char) :
    namesOf (before ++ '/' :: after) = namesOf before ++ namesOf after := by
  simp [namesOf, pieces_append_cons]

theorem namesOf_of_single {name : String} (named : name ≠ "") (single : '/' ∉ name.toList) :
    namesOf name.toList = [name] := by
  have more : name.toList ≠ [] := by simpa using named
  simp [namesOf, pieces_of_notMem single, more]

/-- A text is a path that can be opened if it has no null character, is not empty and not too long. -/
theorem opened?_eq_ok {text : String} {path : Path} :
    opened? text = .ok path ↔
      ('\x00' ∉ text.toList ∧ text ≠ "" ∧ text.utf8ByteSize ≤ maxLength) ∧
        path = ⟨text.toList.head? == some '/', namesOf text.toList,
          text.toList.getLast? == some '/'⟩ := by
  unfold opened? ofText?
  by_cases nul : '\x00' ∈ text.toList
  · simp [nul, bind, Except.bind]
  by_cases empty : text = ""
  · simp [empty, bind, Except.bind]
  by_cases long : maxLength < text.utf8ByteSize
  · have beyond : ¬ text.utf8ByteSize ≤ maxLength := Nat.not_le.mpr long
    simp [nul, empty, long, beyond, bind, Except.bind]
  · simp only [nul, long, String.toList_eq_nil_iff, empty, bind, Except.bind, if_false, namesOf,
      Except.ok.injEq, not_false_eq_true, ne_eq, Nat.not_lt.mp long, and_self, true_and]
    exact eq_comm

/-- The path of a name within a directory leads there by way of the directory. -/
theorem opened?_join {directory name : String} {path : Path} (given : directory ≠ "")
    (named : name ≠ "") (single : '/' ∉ name.toList)
    (opened : Path.opened? (join directory name) = .ok path) :
    ∃ above, Path.opened? directory = .ok above ∧ path.fromRoot = above.fromRoot ∧
      path.names = above.names ++ [name] := by
  obtain ⟨⟨nul, -, short⟩, rfl⟩ := opened?_eq_ok.mp opened
  -- A slash is put between the two unless the directory ends in one.
  obtain ⟨after, text, names⟩ : ∃ after, join directory name = directory ++ after ∧
      namesOf (join directory name).toList = namesOf directory.toList ++ [name] := by
    unfold join
    rw [if_neg given]
    split
    · rename_i slash
      obtain ⟨before, ends⟩ := List.getLast?_eq_some_iff.mp slash
      refine ⟨name, rfl, ?_⟩
      rw [String.toList_append, ends, List.append_assoc, List.singleton_append,
        namesOf_append_cons, namesOf_append_cons, namesOf_of_single named single]
      simp [namesOf, pieces]
    · refine ⟨"/" ++ name, by rw [String.append_assoc], ?_⟩
      rw [String.append_assoc, String.toList_append, String.toList_append,
        show "/".toList = ['/'] by decide, List.singleton_append, namesOf_append_cons,
        namesOf_of_single named single]
  refine ⟨_, opened?_eq_ok.mpr ⟨⟨fun among => nul ?_, given, ?_⟩, rfl⟩, ?_, names⟩
  · simp [text, among]
  · rw [text, String.utf8ByteSize_append] at short
    omega
  · have more : directory.toList ≠ [] := by simpa using given
    simp [text, List.head?_append_of_ne_nil _ more]

end Path

namespace Disk

variable {disk : Disk} {text : String} {place : Location}

theorem insertNode_insertNode (place : Location) (first second : Node)
    (nodes : List (Location × Node)) :
    insertNode place second (insertNode place first nodes) = insertNode place second nodes := by
  induction nodes with
  | nil => simp [insertNode]
  | cons entry nodes ih =>
    by_cases here : entry.1 = place
    · simp [insertNode, here]
    · simp [insertNode, here, ih]

/-- What is put somewhere replaces what was put there before. -/
theorem put_put (disk : Disk) (place : Location) (first second : Node) :
    (disk.put place first).put place second = disk.put place second := by
  simp [put, insertNode_insertNode]

/-- What it takes for a path to name a place for output. -/
theorem placeForOutput_eq_ok (chosen : disk.placeForOutput text = .ok place) :
    ∃ path name parent, Path.opened? text = .ok path ∧ path.names.getLast? = some name ∧
      path.names.dropLast.foldlM disk.enter (disk.start path) = .ok parent ∧
      disk.isDirectory parent = true ∧ path.endsInSlash = false ∧
      disk.enter parent name = .ok place := by
  obtain ⟨path, opened, chosen⟩ := bind_eq_ok.mp chosen
  cases last : path.names.getLast? with
  | none =>
    rw [last] at chosen
    cases chosen
  | some name =>
    rw [last] at chosen
    obtain ⟨parent, walked, chosen⟩ := bind_eq_ok.mp chosen
    obtain ⟨_, directory, chosen⟩ := bind_eq_ok.mp chosen
    split at chosen
    · cases chosen
    · rename_i slash
      obtain ⟨reached, entered, chosen⟩ := bind_eq_ok.mp chosen
      split at chosen <;> cases chosen
      exact ⟨path, name, parent, opened, last, walked, checkDirectory_eq_ok.mp directory,
        by simpa using slash, entered⟩

/-- A file that was put where a path leads for output is found there. -/
theorem find_put_self (chosen : disk.placeForOutput text = .ok place) (bytes : List UInt8) :
    (disk.put place (.file bytes)).find text = .ok (place, .file bytes) := by
  have vacant := isDirectory_of_placeForOutput chosen
  obtain ⟨path, name, parent, opened, last, walked, -, slash, entered⟩ :=
    placeForOutput_eq_ok chosen
  have whole : path.names.foldlM disk.enter (disk.start path) = .ok place := by
    rw [← List.dropLast_append_getLast? name last, List.foldlM_append]
    exact bind_eq_ok.mpr ⟨parent, walked, bind_eq_ok.mpr ⟨place, entered, rfl⟩⟩
  have held : (disk.put place (.file bytes)).node? place = some (.file bytes) :=
    file?_eq_some.mp (file?_put_self (ne_root_of_vacant vacant) bytes)
  refine find_eq_ok.mpr ⟨path, opened, follow_eq_ok.mpr ⟨walk_put vacant whole, held, ?_⟩⟩
  simp [slash]

/-- The directory of a place for output is there. -/
theorem exists?_of_placeForOutput_join {directory name : String} (given : directory ≠ "")
    (named : name ≠ "") (single : '/' ∉ name.toList)
    (chosen : disk.placeForOutput (Path.join directory name) = .ok place) :
    disk.exists? directory = true := by
  obtain ⟨path, _, parent, opened, -, walked, there, -⟩ := placeForOutput_eq_ok chosen
  obtain ⟨above, reads, sameStart, names⟩ := Path.opened?_join given named single opened
  rw [names, List.dropLast_concat, show disk.start path = disk.start above by
    rw [start, start, sameStart]] at walked
  have found : disk.find directory = .ok (parent, .directory) :=
    find_eq_ok.mpr ⟨above, reads, follow_eq_ok.mpr
      ⟨walked, isDirectory_eq_true.mp there, fun _ => rfl⟩⟩
  rw [exists?, found]
  rfl

/-- The place for output stays when a file is put there. -/
theorem placeForOutput_put (chosen : disk.placeForOutput text = .ok place) (bytes : List UInt8) :
    (disk.put place (.file bytes)).placeForOutput text = .ok place := by
  have grows := grows_put (isDirectory_of_placeForOutput chosen) bytes
  exact placeForOutput_of_directories grows.workingDirectory grows.directories chosen

/-- The disk with a directory made if nothing is there, and the failure if there was one. -/
def withDirectory (disk : Disk) (directory : String) : Disk × Option IoError :=
  if disk.exists? directory then (disk, none) else disk.createDirectories directory

/-- Nothing has to be made if the settings file has a place. -/
theorem withDirectory_of_placeForOutput {directory : String}
    (chosen : disk.placeForOutput (settingsPath directory) = .ok place) :
    disk.withDirectory directory = (disk, none) := by
  by_cases given : directory = ""
  · subst given
    rfl
  · rw [withDirectory, if_pos (exists?_of_placeForOutput_join given (by decide) (by decide) chosen)]

/-- What was opened for writing and takes bytes holds what is written. -/
theorem write_opened (chosen : disk.placeForOutput text = .ok place) {bytes : List UInt8}
    (more : bytes ≠ []) (saved : Disk) :
    (∃ later, (disk.opened place .write).write ⟨text, .write, place, 0⟩ bytes =
        .ok (later, saved)) ↔
      disk.node? place ≠ some .fullDevice ∧ saved = disk.put place (.file bytes) := by
  have vacant := isDirectory_of_placeForOutput chosen
  have held : (disk.put place (.file [])).node? place = some (.file []) :=
    file?_eq_some.mp (file?_put_self (ne_root_of_vacant vacant) [])
  have emptied : (disk.put place (.file [])).write ⟨text, .write, place, 0⟩ bytes =
      .ok (⟨text, .write, place, bytes.length⟩, disk.put place (.file bytes)) := by
    simp [write, more, held, overwrite, put_put]
  cases there : disk.node? place with
  | some node =>
    cases node with
    | directory => simp [isDirectory, there] at vacant
    | fullDevice => simp [opened, write, there, more]
    | file old => simp [opened, there, emptied, eq_comm]
  | none => simp [opened, there, emptied, eq_comm]

end Disk

/-! ### Saving

Making the directory, opening the file and writing it, one after the other. Each may fail, and only
the last changes what the settings file holds. -/

section Saving

variable {disk saved : Disk} {directory : String} {settings : Settings}

/-- The settings file starts with the name of the first setting. -/
theorem exists_toList_render (settings : Settings) :
    ∃ more, settings.render.toList = 'l' :: more := by
  rw [Settings.render, String.toList_ofList]
  exact ⟨_, rfl⟩

theorem exists_encode_render (settings : Settings) :
    ∃ more, Utf8.encode settings.render = 0x6C :: more := by
  obtain ⟨more, begins⟩ := exists_toList_render settings
  exact ⟨more.flatMap String.utf8EncodeChar, by rw [Utf8.encode, begins]; rfl⟩

/-- No mark of the byte order comes before the settings. -/
theorem settingsText_encode_render (settings : Settings) :
    settingsText (Utf8.encode settings.render) = settings.render := by
  have read : Utf8.decodeLossy (Utf8.encode settings.render) = settings.render := by
    unfold Utf8.decodeLossy Utf8.encode
    rw [Utf8.units_encode, List.map_map]
    simp [Function.comp_def]
  obtain ⟨more, begins⟩ := exists_encode_render settings
  rw [begins] at read ⊢
  exact read

theorem encode_render_ne_nil (settings : Settings) : Utf8.encode settings.render ≠ [] := by
  obtain ⟨more, begins⟩ := exists_encode_render settings
  simp [begins]

/-- Without a directory nothing is saved. -/
theorem saveSettings_of_failure {ready : Disk} {cause : IoError}
    (made : disk.withDirectory directory = (ready, some cause)) :
    saveSettings disk directory settings = (ready, some (.directoryNotMade directory cause)) := by
  unfold saveSettings
  rw [show (if disk.exists? directory then (disk, none) else disk.createDirectories directory) =
    (ready, some cause) from made]

/-- Once there is a directory, the settings file is opened and written. -/
theorem saveSettings_of_ready {ready : Disk} (made : disk.withDirectory directory = (ready, none)) :
    saveSettings disk directory settings =
      match ready.placeForOutput (settingsPath directory) with
      | .error cause => (ready, some (.notWritten (settingsPath directory) cause))
      | .ok place =>
        match (ready.opened place .write).write ⟨settingsPath directory, .write, place, 0⟩
            (Utf8.encode settings.render) with
        | .error cause =>
          (ready.opened place .write, some (.notWritten (settingsPath directory) cause))
        | .ok (_, saved) => (saved, none) := by
  unfold saveSettings
  rw [show (if disk.exists? directory then (disk, none) else disk.createDirectories directory) =
    (ready, none) from made]
  dsimp only
  cases chosen : ready.placeForOutput (settingsPath directory) with
  | error cause =>
    have opens : ready.openTarget (settingsPath directory) .write = .error cause := by
      rw [Disk.openTarget, chosen]
      rfl
    rw [opens]
  | ok place =>
    have opens : ready.openTarget (settingsPath directory) .write =
        .ok (⟨settingsPath directory, .write, place, 0⟩, ready.opened place .write) := by
      rw [Disk.openTarget, chosen]
      rfl
    cases written : (ready.opened place .write).write ⟨settingsPath directory, .write, place, 0⟩
      (Utf8.encode settings.render) <;> simp only [opens, written]

/-- Settings are saved if their directory can be made, and if the path leads to a place in it that
takes bytes. They are put there. -/
theorem saveSettings_eq_ok_iff :
    saveSettings disk directory settings = (saved, none) ↔
      ∃ ready place, disk.withDirectory directory = (ready, none) ∧
        ready.placeForOutput (settingsPath directory) = .ok place ∧
        ready.node? place ≠ some .fullDevice ∧
        saved = ready.put place (.file (Utf8.encode settings.render)) := by
  cases made : disk.withDirectory directory with
  | mk ready failure =>
    cases failure with
    | some cause => simp [saveSettings_of_failure made]
    | none =>
      rw [saveSettings_of_ready made]
      cases chosen : ready.placeForOutput (settingsPath directory) with
      | error cause =>
        constructor
        · nofun
        · rintro ⟨_, _, same, again, -⟩
          cases same
          rw [chosen] at again
          cases again
      | ok place =>
        have written := Disk.write_opened chosen (encode_render_ne_nil settings) saved
        constructor
        · intro done
          refine ⟨ready, place, rfl, chosen, written.mp ?_⟩
          dsimp only at done
          split at done
          · cases done
          · rename_i later _ wrote
            cases done
            exact ⟨later, wrote⟩
        · rintro ⟨_, _, same, again, there⟩
          cases same
          rw [chosen] at again
          cases again
          obtain ⟨later, wrote⟩ := written.mpr there
          simp only [wrote]

/-- The settings file holds what was saved. -/
theorem fileAt?_of_saved (done : saveSettings disk directory settings = (saved, none)) :
    saved.fileAt? (settingsPath directory) = some (Utf8.encode settings.render) := by
  obtain ⟨ready, place, -, chosen, -, rfl⟩ := saveSettings_eq_ok_iff.mp done
  rw [Disk.fileAt?, Disk.find_put_self chosen]

/-- Saving the same settings once more changes nothing. -/
theorem saveSettings_again (done : saveSettings disk directory settings = (saved, none)) :
    saveSettings saved directory settings = (saved, none) := by
  obtain ⟨ready, place, -, chosen, -, rfl⟩ := saveSettings_eq_ok_iff.mp done
  have stays := Disk.placeForOutput_put chosen (Utf8.encode settings.render)
  refine saveSettings_eq_ok_iff.mpr ⟨_, place, ?_, stays, ?_, ?_⟩
  · exact Disk.withDirectory_of_placeForOutput stays
  · have held := Disk.node?_of_find (Disk.find_put_self chosen (Utf8.encode settings.render))
    simp [held]
  · rw [Disk.put_put]

end Saving

end ExtractOptions
