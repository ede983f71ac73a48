import ModelineAssist.Proofs.Settings.Effective
import ModelineAssist.Proofs.Settings.Meaning
import ModelineAssist.Proofs.Text.ByteOrder

/-!
What loading gives. The path of the workspace has to be a text, and each file that there is has to
follow its format. Then each of the four settings comes to a value by the entries for it, first
those of the user and then those of the workspace, and all are loaded if and only if each of these
four values means something. What is replaced on the way is not looked at, and neither is any other
key.
-/
namespace ModelineAssist.Settings
open Text Matching

/-- The path of a file with an extension. -/
def pathWith (around : Surroundings) (stem extension : String) : String :=
  Path.inDirectory around.directory stem ++ "." ++ extension

/-- There is one file under a name, and its extension is known. -/
structure OnlyFile (around : Surroundings) (stem extension : String) (format : Format)
    (content : List UInt8) : Prop where
  bare : around.files.read? (Path.inDirectory around.directory stem) = none
  known : (extension, format) ∈ extensions
  present : around.files.read? (pathWith around stem extension) = some content
  alone : ∀ e ∈ extensions, e ≠ (extension, format) →
    around.files.read? (pathWith around stem e.1) = none

/-- What there is to read under a name, `none` where a file does not follow its format. -/
inductive Source (around : Surroundings) (stem : String) : Option (List (String × Value)) → Prop
  | formatless {content} :
      around.files.read? (Path.inDirectory around.directory stem) = some content →
      Source around stem (some [])
  | missing : around.files.read? (Path.inDirectory around.directory stem) = none →
      (∀ e ∈ extensions, around.files.read? (pathWith around stem e.1) = none) →
      Source around stem (some [])
  | notText {extension format content} : OnlyFile around stem extension format content →
      String.fromUTF8? content.toByteArray = none → Source around stem (some [])
  | broken {extension format content text} : OnlyFile around stem extension format content →
      String.fromUTF8? content.toByteArray = some text → format.parse? text.toList = none →
      Source around stem none
  | parsed {extension format content text entries} :
      OnlyFile around stem extension format content →
      String.fromUTF8? content.toByteArray = some text →
      format.parse? text.toList = some entries →
      Source around stem (some (Value.locateAll
        (Path.relativeTo around.directory (pathWith around stem extension)) entries))

variable {s : Settings} {around : Surroundings} {root : List UInt8} {stem extension : String}
  {format : Format} {content : List UInt8} {user workspace : List (String × Value)}

/-! ### Files -/

theorem readWith_of_missing {exts : List (String × Format)}
    (h : ∀ e ∈ exts, around.files.read? (stem ++ "." ++ e.1) = none) :
    readWith around stem exts = some [] := by
  induction exts with
  | nil => rfl
  | cons e exts ih =>
    obtain ⟨he, hexts⟩ := List.forall_mem_cons.mp h
    simp only [readWith, he]
    exact ih hexts

theorem readWith_of_only {exts : List (String × Format)} (hmem : (extension, format) ∈ exts)
    (hread : around.files.read? (stem ++ "." ++ extension) = some content)
    (alone : ∀ e ∈ exts, e ≠ (extension, format) →
      around.files.read? (stem ++ "." ++ e.1) = none) :
    readWith around stem exts = readFile around (stem ++ "." ++ extension) format content := by
  induction exts with
  | nil => exact absurd hmem List.not_mem_nil
  | cons e exts ih =>
    obtain ⟨he, hexts⟩ := List.forall_mem_cons.mp alone
    by_cases heq : e = (extension, format)
    · subst heq
      simp only [readWith, hread]
    · have hmem' := (List.mem_cons.mp hmem).resolve_left (Ne.symm heq)
      simp only [readWith, he heq]
      exact ih hmem' hexts

/-- Without a file that has the bare name, those with extensions are looked for. -/
theorem readSource_of_bare
    (h : around.files.read? (Path.inDirectory around.directory stem) = none) :
    readSource around stem =
      readWith around (Path.inDirectory around.directory stem) extensions := by
  dsimp only [readSource]
  rw [h]

theorem OnlyFile.readSource_eq (h : OnlyFile around stem extension format content) :
    readSource around stem = readFile around (pathWith around stem extension) format content := by
  rw [readSource_of_bare h.bare]
  exact readWith_of_only h.known h.present h.alone

/-- What there is to read is read. -/
theorem Source.readSource_eq {source : Option (List (String × Value))}
    (h : Source around stem source) : readSource around stem = source := by
  cases h with
  | formatless hbare =>
    dsimp only [readSource]
    rw [hbare]
  | missing hbare hmissing =>
    rw [readSource_of_bare hbare]
    exact readWith_of_missing hmissing
  | notText hfile htext => rw [hfile.readSource_eq]; simp only [readFile, htext]
  | broken hfile htext hparse =>
    rw [hfile.readSource_eq]
    simp only [readFile, htext, hparse, Option.map_none]
  | parsed hfile htext hparse =>
    rw [hfile.readSource_eq]
    simp only [readFile, htext, hparse, Option.map_some]

/-! ### Loading -/

theorem load_eq_ok_iff (h : Holds around root user workspace) :
    load around root = .ok s ↔ ofFiles user workspace = .ok s := by
  rw [load_of_holds h]
  cases ofFiles user workspace <;> simp [Except.mapError]

theorem load_eq_error_iff {e : LoadError} (h : Holds around root user workspace) :
    load around root = .error e ↔ ∃ m, e = .misfit m ∧ ofFiles user workspace = .error m := by
  rw [load_of_holds h]
  cases ofFiles user workspace with
  | ok => simp [Except.mapError]
  | error m => simp [Except.mapError, eq_comm]

theorem load_of_unreadable {path : String} (hpath : String.fromUTF8? root.toByteArray = some path)
    (h : readSource around (userStem around) = none ∨
      readSource around (workspaceStem path) = none) : load around root = .error .unreadable := by
  unfold load
  rw [hpath]
  rcases h with h | h
  · simp only [h]
  · cases huser : readSource around (userStem around) with
    | none => simp only
    | some user => simp only [h]

/-- What loading comes to where both files have been read: the one value of each setting, and what
the values together mean. -/
structure LoadsValues (around : Surroundings) (root : List UInt8)
    (user workspace : List (String × Value)) (value : Setting → Value) : Prop where
  /-- The value is the default with the entry of the user and then that of the workspace laid over
  it. -/
  effective : ∀ k v, Effective k user workspace v ↔ v = value k
  /-- The settings are what the values mean. -/
  settings : ∀ s, load around root = .ok s ↔ ∀ k : Setting, k.Means (value k) (k.of s)
  /-- There are settings if and only if every value means something. -/
  loads : (∃ s, load around root = .ok s) ↔ ∀ k : Setting, ∃ c, k.Means (value k) c
  /-- Otherwise one of the values is at fault. -/
  misfit : ∀ e, load around root = .error e →
    ∃ (k : Setting) (m : Misfit), e = .misfit m ∧ k.read (value k) = .error m
  /-- An entry of the workspace that is no table replaces what the user gives, whatever that is. -/
  replaced : ∀ (k : Setting) e origin content, e ∈ entriesFor k.key workspace →
    Gives e (.leaf origin content) → value k = .leaf origin content

/-- What loading from a path gives, whatever the files are. -/
structure LoadsFrom (around : Surroundings) (root : List UInt8) : Prop where
  /-- Without a path that is a text there are no settings. -/
  notText : String.fromUTF8? root.toByteArray = none → load around root = .error .rootNotText
  /-- With a file that does not follow its format there are no settings. -/
  unreadable : ∀ path, String.fromUTF8? root.toByteArray = some path →
    readSource around (userStem around) = none ∨ readSource around (workspaceStem path) = none →
    load around root = .error .unreadable
  /-- Otherwise each setting has one value. -/
  read : ∀ path user workspace, String.fromUTF8? root.toByteArray = some path →
    readSource around (userStem around) = some user →
    readSource around (workspaceStem path) = some workspace → Regular user → Regular workspace →
    ∃ value, LoadsValues around root user workspace value
  /-- What there is to read under a name is nothing where there is no file, or none of a known
  format that is a text. -/
  source : ∀ stem source, Source around stem source → readSource around stem = source

theorem exists_loadsValues (h : Holds around root user workspace) (regular : Regular user)
    (regular' : Regular workspace) : ∃ value, LoadsValues around root user workspace value := by
  have hok (s : Settings) : load around root = .ok s ↔ ∀ k : Setting,
      k.Means (valueOf k.key (layOver workspace (layOver user defaultValue))) (k.of s) := by
    rw [load_eq_ok_iff h, ofFiles, ofValue_eq_ok_iff]
    exact forall_congr' fun k => read_eq_ok_iff
  refine ⟨fun k => valueOf k.key (layOver workspace (layOver user defaultValue)),
    fun k v => effective_iff regular regular', hok, ⟨?_, fun hall => ?_⟩, fun e he => ?_, ?_⟩
  · rintro ⟨s, hs⟩ k
    exact ⟨k.of s, (hok s).mp hs k⟩
  · obtain ⟨s, hs⟩ := exists_of hall
    exact ⟨s, (hok s).mpr hs⟩
  · obtain ⟨m, hm, hfiles⟩ := (load_eq_error_iff h).mp he
    obtain ⟨k, hk⟩ := exists_read_of_ofValue_eq_error hfiles
    exact ⟨k, m, hm, hk⟩
  · intro k e origin content he hgives
    obtain ⟨v, hv⟩ := exists_effective regular regular' k
    exact hv.valueOf_eq.trans (hv.eq_leaf regular' he hgives)

/-- What loading gives, for any path and any files. -/
theorem load_exact (around : Surroundings) (root : List UInt8) : LoadsFrom around root where
  notText hroot := by
    unfold load
    rw [hroot]
  unreadable _ hpath h := load_of_unreadable hpath h
  read path _ _ hpath huser hworkspace regular regular' :=
    exists_loadsValues ⟨huser, path, hpath, hworkspace⟩ regular regular'
  source _ _ h := h.readSource_eq

/-! ### Two files -/

/-- The bytes of a text are a text. -/
theorem fromUTF8?_utf8 (s : String) : String.fromUTF8? (utf8 s).toByteArray = some s := by
  have hbytes : (utf8 s).toByteArray = s.toUTF8 :=
    ByteArray.ext (Array.toList_inj.mp List.toList_data_toByteArray)
  rw [hbytes]
  exact dif_pos s.isValidUTF8

/-- What a user sets. There is no such strategy, but it is replaced. -/
def userText : String :=
  "\x7b\"hover\":\"No\",\"match_strategy\":\"Regex\",\"case_matching\":\x7b\x7d\x7d"

/-- What a workspace sets, by a path into a table. -/
def workspaceText : String := "\x7b\"Match_Strategy.Fuzzy\":true\x7d"

/-- Surroundings with both files. -/
def twoFiles : Surroundings := ⟨"/h", "/", ⟨[(["ws".toList], .directory),
  (["ws".toList, ".camelk-modeline.json".toList], .file (utf8 workspaceText)),
  (["h".toList], .directory), (["h".toList, ".config".toList], .directory),
  (["h".toList, ".config".toList, "camelk-modeline".toList], .directory),
  (["h".toList, ".config".toList, "camelk-modeline".toList, "settings.json".toList],
    .file (utf8 userText))]⟩⟩

/-- The entries of the user. -/
def userFile : List (String × Value) :=
  Value.locateAll "h/.config/camelk-modeline/settings.json"
    [("hover", .plain (.text "No")), ("match_strategy", .plain (.text "Regex")),
      ("case_matching", .table [])]

/-- The entries of the workspace. -/
def workspaceFile : List (String × Value) :=
  Value.locateAll "ws/.camelk-modeline.json"
    [("Match_Strategy.Fuzzy", .plain (.bool true))]

theorem source_userFile : Source twoFiles (userStem twoFiles) (some userFile) := by
  have parsed : Format.json.parse? userText.toList = some
      [("hover", .plain (.text "No")), ("match_strategy", .plain (.text "Regex")),
        ("case_matching", .table [])] := by cbv
  have path : Path.relativeTo "/" (pathWith twoFiles (userStem twoFiles) "json") =
      "h/.config/camelk-modeline/settings.json" := by rfl
  have only : OnlyFile twoFiles (userStem twoFiles) "json" .json (utf8 userText) :=
    ⟨by rfl, by decide, by rfl, by decide⟩
  have h := Source.parsed only (fromUTF8?_utf8 userText) parsed
  rwa [show twoFiles.directory = "/" from rfl, path] at h

theorem source_workspaceFile :
    Source twoFiles (workspaceStem "/ws") (some workspaceFile) := by
  have parsed : Format.json.parse? workspaceText.toList = some
      [("Match_Strategy.Fuzzy", .plain (.bool true))] := by cbv
  have path : Path.relativeTo "/" (pathWith twoFiles (workspaceStem "/ws") "json") =
      "ws/.camelk-modeline.json" := by rfl
  have only : OnlyFile twoFiles (workspaceStem "/ws") "json" .json (utf8 workspaceText) :=
    ⟨by rfl, by decide, by rfl, by decide⟩
  have h := Source.parsed only (fromUTF8?_utf8 workspaceText) parsed
  rwa [show twoFiles.directory = "/" from rfl, path] at h

theorem regular_userFile : Regular userFile where
  one k := by cases k <;> decide
  gives := List.forall_mem_cons.mpr ⟨⟨_, [], rfl, rfl⟩, List.forall_mem_cons.mpr ⟨⟨_, [], rfl, rfl⟩,
    List.forall_mem_cons.mpr ⟨⟨_, [], rfl, rfl⟩, nofun⟩⟩⟩

theorem regular_workspaceFile : Regular workspaceFile where
  one k := by cases k <;> decide
  gives := List.forall_mem_cons.mpr ⟨⟨_, ["Fuzzy"], rfl, rfl⟩, nofun⟩

/-- The word for hovering counts in any case. A strategy that there is not is replaced by a table of
one name, and an empty table leaves the case rule as it is. -/
theorem load_twoFiles :
    Regular userFile ∧ Regular workspaceFile ∧
    Effective .strategy userFile workspaceFile
      (.table [("fuzzy", .leaf (some "ws/.camelk-modeline.json") (.bool true))]) ∧
    load twoFiles (utf8 "/ws") = .ok ⟨true, false, .scattered, .respect⟩ ∧
    load twoFiles [0xFF] = .error .rootNotText := by
  have loading := load_exact twoFiles (utf8 "/ws")
  obtain ⟨value, loaded⟩ := loading.read "/ws" _ _ (fromUTF8?_utf8 "/ws")
    (loading.source _ _ source_userFile) (loading.source _ _ source_workspaceFile)
    regular_userFile regular_workspaceFile
  have completions : Effective .completions userFile workspaceFile (.plain (.bool true)) :=
    ⟨_, .none rfl, .none rfl⟩
  have hover : Effective .hover userFile workspaceFile
      (.leaf (some "h/.config/camelk-modeline/settings.json") (.text "No")) :=
    ⟨_, .one rfl ⟨[], rfl, rfl⟩ .leaf, .none rfl⟩
  have strategy : Effective .strategy userFile workspaceFile
      (.table [("fuzzy", .leaf (some "ws/.camelk-modeline.json") (.bool true))]) :=
    ⟨_, .one rfl ⟨[], rfl, rfl⟩ .leaf, .one rfl ⟨["Fuzzy"], rfl, rfl⟩ (.entry .leaf .empty)⟩
  have rule : Effective .rule userFile workspaceFile (.plain (.text "Respect")) :=
    ⟨_, .one rfl ⟨[], rfl, rfl⟩ .empty, .none rfl⟩
  have word : lowercaseString "No" ∈ ["0", "false", "off", "no"] := by decide
  have name : lowercaseString "fuzzy" = lowercaseString Strategy.scattered.name := by decide
  refine ⟨regular_userFile, regular_workspaceFile, strategy, (loaded.settings _).mpr fun k => ?_,
    (load_exact twoFiles [0xFF]).notText rfl⟩
  cases k with
  | completions => exact (loaded.effective _ _).mp completions ▸ .bool
  | hover => exact (loaded.effective _ _).mp hover ▸ .off word
  | strategy => exact (loaded.effective _ _).mp strategy ▸ .table name
  | rule => exact (loaded.effective _ _).mp rule ▸ .text rfl

end ModelineAssist.Settings
