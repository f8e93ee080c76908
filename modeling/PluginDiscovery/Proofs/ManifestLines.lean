import Mathlib
import PluginDiscovery.Proofs.Handles
import PluginDiscovery.Proofs.TrimmedText
import PluginDiscovery.Proofs.Utf8Encoding
import PluginDiscovery.Proofs.WrittenFiles

/-!
# What the lines of a manifest tell

A line tells something if it is a key and a value around an equals sign once it is trimmed. The
first line that tells `fail` decides that no module is opened, wherever it stands; if there is none,
a name is exported as the last line that exports it tells. The file of a manifest is read for its
lines, and a manifest that was written has the lines it was written with.

* `Manifest.Tells`, `ofLine?_eq_some_iff`: what a line tells;
* `Gives`, `FirstFails`, `LastGives`: what lines tell together, `Reads`: a module with just that;
* `extend_eq_error_iff`, `symbols_extend`: the reading of entries one after the other;
* `reads_opening`: the reading of lines, `opening_insert`: lines that tell nothing;
* `load_of_text`, `load_of_write`: the lines of a file, and of one that was written;
* `openFile_record`: the record of openings, `openFile_reads`: all of it.
-/

namespace PluginDiscovery

/-! ## 1. Lines of a text -/

namespace Lines

theorem split_eq (cs : List Char) : split cs = cs.splitOn '\n' := by
  induction cs with
  | nil => rfl
  | cons c cs ih =>
    rw [split, List.splitOn_cons_eq_if_modifyHead, ih]
    by_cases newline : c = '\n'
    · simp [newline]
    · obtain ⟨line, lines, cut⟩ := List.exists_cons_of_ne_nil (List.splitOn_ne_nil '\n' cs)
      simp [newline, cut]

/-- Texts without newlines are the lines of the text that they are joined to. -/
theorem split_intercalate {texts : List String} (plain : ∀ t ∈ texts, '\n' ∉ t.toList)
    (some : texts ≠ []) : split ("\n".intercalate texts).toList = texts.map String.toList := by
  rw [split_eq, String.toList_intercalate]
  exact List.splitOn_intercalate '\n' (by simpa using plain) (by simpa using some)

end Lines

namespace Manifest

/-! ## 2. What a line tells -/

/-- The line is this key and this value, once it is trimmed of white space on both sides and cut at
    its first equals sign. Nothing is trimmed from the key or the value. -/
def Tells (line : List Char) (key value : String) : Prop :=
  Blank.TrimsTo line (key.toList ++ '=' :: value.toList) ∧ '=' ∉ key.toList

theorem tells_iff {line : List Char} {key value : String} :
    Tells line key value ↔
      KeyValue.split? (Blank.trimChars line) = some (key.toList, value.toList) := by
  rw [Tells, Blank.trimsTo_iff, KeyValue.split?_eq_some_iff]

/-- The key of an entry. -/
def Entry.key : Entry → String
  | .fail _ => "fail"
  | .version _ => "version"
  | .symbol _ => "symbol"

/-- The value of an entry. -/
def Entry.value : Entry → String
  | .fail reason => reason
  | .version value => value
  | .symbol name => name

theorem ofLine?_eq_some_iff {line : List Char} {e : Entry} :
    Entry.ofLine? line = some e ↔ Tells line e.key e.value := by
  rw [tells_iff, Entry.ofLine?]
  cases KeyValue.split? (Blank.trimChars line) with
  | none => simp
  | some parts =>
    obtain ⟨key, value⟩ := parts
    obtain ⟨key, rfl⟩ : ∃ k : String, k.toList = key := ⟨.ofList key, String.toList_ofList⟩
    obtain ⟨value, rfl⟩ : ∃ v : String, v.toList = value := ⟨.ofList value, String.toList_ofList⟩
    simp only [String.toList_inj, String.ofList_toList, Option.some.injEq, Prod.mk.injEq]
    cases e <;> simp only [Entry.key, Entry.value] <;> split_ifs <;> simp_all

/-- A line without an equals sign, or with another key, is no entry. -/
theorem ofLine?_eq_none_iff {line : List Char} :
    Entry.ofLine? line = none ↔ ∀ key value, Tells line key value →
      key ≠ "fail" ∧ key ≠ "version" ∧ key ≠ "symbol" := by
  constructor
  · intro absent key value tells
    have other (e : Entry) : ¬Tells line e.key e.value := fun h => by
      rw [← ofLine?_eq_some_iff, absent] at h
      cases h
    refine ⟨?_, ?_, ?_⟩ <;> rintro rfl
    · exact other (.fail value) tells
    · exact other (.version value) tells
    · exact other (.symbol value) tells
  · intro other
    cases entry : Entry.ofLine? line with
    | none => rfl
    | some e =>
      have keys := other _ _ (ofLine?_eq_some_iff.mp entry)
      cases e <;> simp [Entry.key] at keys

/-- The line exports a name with a text: a version with its value, a symbol with none. -/
inductive Gives (line : List Char) : String → String → Prop where
  | version {value : String} (tells : Tells line "version" value) : Gives line "version" value
  | symbol {name : String} (tells : Tells line "symbol" name) : Gives line name ""

/-! ## 3. What lines tell -/

/-- The first of the lines that tell `fail` has this value. -/
def FirstFails (lines : List (List Char)) (reason : String) : Prop :=
  ∃ before line after, lines = before ++ line :: after ∧ Tells line "fail" reason ∧
    ∀ earlier ∈ before, ∀ r, ¬Tells earlier "fail" r

/-- The last of the lines that export the name does so with this text. -/
def LastGives (lines : List (List Char)) (name text : String) : Prop :=
  ∃ before line after, lines = before ++ line :: after ∧ Gives line name text ∧
    ∀ later ∈ after, ∀ t, ¬Gives later name t

/-- The result of opening a manifest with these lines. -/
structure Reads (path : Path) (lines : List (List Char)) (result : Except PluginError Module) :
    Prop where
  fails : (∃ e, result = .error e) ↔ ∃ line ∈ lines, ∃ reason, Tells line "fail" reason
  reason : ∀ e, result = .error e ↔ ∃ reason, FirstFails lines reason ∧ e = .loadFailed path reason
  path : ∀ m, result = .ok m → m.path = path
  exports : ∀ m, result = .ok m → ∀ name,
    m.exports name = true ↔ ∃ line ∈ lines, ∃ text, Gives line name text
  text : ∀ m, result = .ok m → ∀ name text, m.text? name = some text ↔ LastGives lines name text

/-! ## 4. Reading entry by entry -/

/-- What an entry adds to the symbols of a module. -/
def Entry.export? : Entry → Option (String × Option String)
  | .fail _ => none
  | .version value => some (Abi.version, some value)
  | .symbol name => some (name, some "")

/-- An entry that is no failure is not the first one. -/
theorem firstFailure_cons_iff {e : Entry} {rest : List Entry} {reason : String}
    (other : ∀ r, e ≠ .fail r) :
    (∃ before after, e :: rest = before ++ .fail reason :: after ∧ ∀ r, Entry.fail r ∉ before) ↔
      ∃ before after, rest = before ++ .fail reason :: after ∧ ∀ r, Entry.fail r ∉ before := by
  constructor
  · rintro ⟨before, after, split, free⟩
    cases before with
    | nil =>
      cases split
      exact absurd rfl (other reason)
    | cons e before =>
      cases split
      exact ⟨before, after, rfl, fun r hr => free r (List.mem_cons_of_mem _ hr)⟩
  · rintro ⟨before, after, rfl, free⟩
    refine ⟨e :: before, after, rfl, fun r hr => ?_⟩
    rcases List.mem_cons.mp hr with same | later
    · exact other r same.symm
    · exact free r later

/-- **The reading ends at the first failure**, and at nothing else. -/
theorem extend_eq_error_iff {m : Module} {es : List Entry} {reason : String} :
    extend m es = .error reason ↔
      ∃ before after, es = before ++ .fail reason :: after ∧ ∀ r, Entry.fail r ∉ before := by
  fun_induction extend m es with
  | case1 m => simp
  | case2 m first rest =>
    constructor
    · rintro ⟨⟩
      exact ⟨[], rest, rfl, fun r => List.not_mem_nil⟩
    · rintro ⟨before, after, split, free⟩
      cases before with
      | nil =>
        cases split
        rfl
      | cons e before =>
        cases split
        exact absurd List.mem_cons_self (free first)
  | case3 m value rest ih => rw [ih, firstFailure_cons_iff (by simp)]
  | case4 m name rest ih => rw [ih, firstFailure_cons_iff (by simp)]

/-- **Entries put their exports in front of those before them.** -/
theorem symbols_extend {m m' : Module} {es : List Entry} (h : extend m es = .ok m') :
    m'.symbols = (es.filterMap Entry.export?).reverse ++ m.symbols := by
  fun_induction extend m es with
  | case1 m =>
    cases h
    rfl
  | case2 m reason rest => cases h
  | case3 m value rest ih => simp [ih h, Entry.export?, Module.withExport]
  | case4 m name rest ih => simp [ih h, Entry.export?, Module.withExport]

/-- What a line adds to the symbols of a module. -/
def exportOf? (line : List Char) : Option (String × Option String) :=
  (Entry.ofLine? line).bind Entry.export?

theorem exportOf?_eq_some_iff {line : List Char} {name : String} {text : Option String} :
    exportOf? line = some (name, text) ↔ ∃ t, Gives line name t ∧ text = some t := by
  rw [exportOf?, Option.bind_eq_some_iff]
  constructor
  · rintro ⟨e, entry, adds⟩
    have tells := ofLine?_eq_some_iff.mp entry
    cases e with
    | fail reason => cases adds
    | version value =>
      cases adds
      exact ⟨value, .version tells, rfl⟩
    | symbol name =>
      cases adds
      exact ⟨"", .symbol tells, rfl⟩
  · rintro ⟨t, gives, rfl⟩
    cases gives with
    | version tells => exact ⟨.version t, ofLine?_eq_some_iff.mpr tells, rfl⟩
    | symbol tells => exact ⟨.symbol name, ofLine?_eq_some_iff.mpr tells, rfl⟩

/-! ## 5. Reading line by line -/

/-- What the lines of a manifest give: a module of the path, or the reason why there is none. -/
def opening (path : Path) (lines : List (List Char)) : Except PluginError Module :=
  (extend (Module.empty path) (lines.filterMap Entry.ofLine?)).mapError (.loadFailed path)

variable {path : Path} {lines : List (List Char)}

theorem firstFails_iff {reason : String} :
    FirstFails lines reason ↔ ∃ before after,
      lines.filterMap Entry.ofLine? = before ++ .fail reason :: after ∧
        ∀ r, Entry.fail r ∉ before := by
  constructor
  · rintro ⟨before, line, after, rfl, tells, free⟩
    refine ⟨before.filterMap Entry.ofLine?, after.filterMap Entry.ofLine?, ?_, fun r member => ?_⟩
    · have entry : Entry.ofLine? line = some (.fail reason) := ofLine?_eq_some_iff.mpr tells
      rw [List.filterMap_append, List.filterMap_cons_some entry]
    · obtain ⟨earlier, inside, entry⟩ := List.mem_filterMap.mp member
      exact free earlier inside r (ofLine?_eq_some_iff.mp entry)
  · rintro ⟨before, after, split, free⟩
    obtain ⟨first, rest, rfl, hfirst, hrest⟩ := List.filterMap_eq_append_iff.mp split
    obtain ⟨silent, line, later, rfl, nothing, entry, -⟩ := List.filterMap_eq_cons_iff.mp hrest
    refine ⟨first ++ silent, line, later, by simp, ofLine?_eq_some_iff.mp entry,
      fun earlier inside r tells => ?_⟩
    have fails : Entry.ofLine? earlier = some (.fail r) := ofLine?_eq_some_iff.mpr tells
    rcases List.mem_append.mp inside with inFirst | inSilent
    · exact free r (hfirst ▸ List.mem_filterMap.mpr ⟨earlier, inFirst, fails⟩)
    · cases (nothing earlier inSilent).symm.trans fails

theorem symbols_of_opening {m : Module} (h : opening path lines = .ok m) :
    m.path = path ∧ m.symbols = (lines.filterMap exportOf?).reverse := by
  unfold opening at h
  cases read : extend (Module.empty path) (lines.filterMap Entry.ofLine?) with
  | error reason =>
    rw [read] at h
    cases h
  | ok m' =>
    rw [read] at h
    cases h
    refine ⟨extend_path read, ?_⟩
    rw [symbols_extend read, List.filterMap_filterMap]
    exact List.append_nil _

/-- **The text of a name is that of the last line that exports it.** -/
theorem lookup_reverse_iff {name text : String} :
    (lines.filterMap exportOf?).reverse.lookup name = some (some text) ↔
      LastGives lines name text := by
  rw [List.lookup_eq_some_iff]
  constructor
  · rintro ⟨later, earlier, split, free⟩
    have cut : lines.filterMap exportOf? =
        earlier.reverse ++ (name, some text) :: later.reverse := by
      simpa using congrArg List.reverse split
    obtain ⟨first, rest, rfl, -, hrest⟩ := List.filterMap_eq_append_iff.mp cut
    obtain ⟨silent, line, after, rfl, -, adds, hafter⟩ := List.filterMap_eq_cons_iff.mp hrest
    obtain ⟨t, gives, same⟩ := exportOf?_eq_some_iff.mp adds
    cases same
    refine ⟨first ++ silent, line, after, by simp, gives, fun l inside t again => ?_⟩
    have member : (name, some t) ∈ after.filterMap exportOf? :=
      List.mem_filterMap.mpr ⟨l, inside, exportOf?_eq_some_iff.mpr ⟨t, again, rfl⟩⟩
    rw [hafter, List.mem_reverse] at member
    simpa using free _ member
  · rintro ⟨before, line, after, rfl, gives, free⟩
    have adds : exportOf? line = some (name, some text) :=
      exportOf?_eq_some_iff.mpr ⟨text, gives, rfl⟩
    refine ⟨(after.filterMap exportOf?).reverse, (before.filterMap exportOf?).reverse, ?_, ?_⟩
    · rw [List.filterMap_append, List.filterMap_cons_some adds]
      simp
    · rintro ⟨other, t⟩ inside
      obtain ⟨l, later, exported⟩ := List.mem_filterMap.mp (List.mem_reverse.mp inside)
      obtain ⟨t, again, rfl⟩ := exportOf?_eq_some_iff.mp exported
      rw [bne_iff_ne]
      rintro rfl
      exact free l later t again

/-- If some line fails, there is a first one that does. -/
theorem exists_firstFails_iff :
    (∃ reason, FirstFails lines reason) ↔ ∃ line ∈ lines, ∃ reason, Tells line "fail" reason := by
  constructor
  · rintro ⟨reason, before, line, after, rfl, tells, -⟩
    exact ⟨line, by simp, reason, tells⟩
  · rintro ⟨line, inside, reason, tells⟩
    induction lines with
    | nil => cases inside
    | cons head rest ih =>
      by_cases fails : ∃ r, Tells head "fail" r
      · obtain ⟨r, tells⟩ := fails
        exact ⟨r, [], head, rest, rfl, tells, fun l hl => (List.not_mem_nil hl).elim⟩
      · have later : line ∈ rest := (List.mem_cons.mp inside).resolve_left fun same =>
          fails ⟨reason, same ▸ tells⟩
        obtain ⟨r, before, first, after, rfl, tells, free⟩ := ih later
        refine ⟨r, head :: before, first, after, rfl, tells, ?_⟩
        exact List.forall_mem_cons.mpr ⟨fun r tells => fails ⟨r, tells⟩, free⟩

/-- **What is opened is what the lines tell.** -/
theorem reads_opening (path : Path) (lines : List (List Char)) :
    Reads path lines (opening path lines) := by
  have reason (e : PluginError) : opening path lines = .error e ↔
      ∃ reason, FirstFails lines reason ∧ e = .loadFailed path reason := by
    simp only [firstFails_iff, ← extend_eq_error_iff (m := Module.empty path), opening]
    cases extend (Module.empty path) (lines.filterMap Entry.ofLine?) <;>
      simp [Except.mapError, eq_comm]
  refine ⟨?_, reason, fun m h => (symbols_of_opening h).1, fun m h name => ?_,
    fun m h name text => ?_⟩
  · rw [← exists_firstFails_iff]
    simp only [reason]
    constructor
    · rintro ⟨e, r, first, -⟩
      exact ⟨r, first⟩
    · rintro ⟨r, first⟩
      exact ⟨_, r, first, rfl⟩
  · rw [Module.exports, (symbols_of_opening h).2, Option.isSome_iff_ne_none, ne_eq,
      List.lookup_eq_none_iff]
    constructor
    · intro some
      push Not at some
      obtain ⟨⟨other, text⟩, member, same⟩ := some
      obtain ⟨line, inside, adds⟩ := List.mem_filterMap.mp (List.mem_reverse.mp member)
      obtain ⟨t, gives, -⟩ := exportOf?_eq_some_iff.mp adds
      obtain rfl : name = other := by simpa using same
      exact ⟨line, inside, t, gives⟩
    · rintro ⟨line, inside, t, gives⟩ none
      have member : (name, some t) ∈ (lines.filterMap exportOf?).reverse :=
        List.mem_reverse.mpr
          (List.mem_filterMap.mpr ⟨line, inside, exportOf?_eq_some_iff.mpr ⟨t, gives, rfl⟩⟩)
      simpa using none _ member
  · rw [Module.text?, (symbols_of_opening h).2, ← lookup_reverse_iff, Option.join_eq_some_iff]

/-- **A line that tells nothing has no effect**, wherever it stands. -/
theorem opening_insert {line : List Char} (silent : ∀ key value, Tells line key value →
    key ≠ "fail" ∧ key ≠ "version" ∧ key ≠ "symbol") (path : Path)
    (before after : List (List Char)) :
    opening path (before ++ line :: after) = opening path (before ++ after) := by
  have nothing : Entry.ofLine? line = none := ofLine?_eq_none_iff.mpr silent
  rw [opening, opening, List.filterMap_append, List.filterMap_append,
    List.filterMap_cons_none nothing]

/-! ## 6. Opening a file -/

theorem load_of_error {fs : FileSystem} {cause : IoError} (unread : fs.read path = .error cause) :
    load fs path = .error cause.message := by
  rw [load, FileSystem.readText, unread]
  rfl

/-- A file that has no text in it is not loaded. -/
theorem load_of_noText {fs : FileSystem} {content : Content} (read : fs.read path = .ok content)
    (noText : ∀ text, content ≠ .bytes (Utf8.encode text)) :
    load fs path = .error IoError.notText.message := by
  have unread : fs.readText path = .error .notText := by
    rw [FileSystem.readText, read]
    cases content with
    | library library => rfl
    | bytes data =>
      have undecoded : Utf8.decode? data = none := Option.eq_none_iff_forall_ne_some.mpr
        fun text decoded =>
          noText text (congrArg Content.bytes (Utf8.decode?_eq_some_iff.mp decoded).symm)
      change (Utf8.decode? data).elim _ _ = _
      rw [undecoded]
      rfl
  rw [load, unread]

theorem load_of_text {fs : FileSystem} {text : String}
    (content : fs.read path = .ok (.bytes (Utf8.encode text))) :
    (load fs path).mapError (.loadFailed path) = opening path (text.toList.splitOn '\n') := by
  have read : fs.readText path = .ok text := by
    rw [FileSystem.readText, content]
    change (Utf8.decode? (Utf8.encode text)).elim _ _ = _
    rw [Utf8.decode?_eq_some_iff.mpr rfl]
    rfl
  rw [load, read, ← Lines.split_eq]
  rfl

/-- A manifest that was written with lines is loaded as they tell. -/
theorem load_of_write {fs written : FileSystem} {directory : Path} {name : String}
    {texts : List String} (plain : ∀ t ∈ texts, '\n' ∉ t.toList)
    (h : write fs directory name texts = .ok (written, path)) :
    (load written path).mapError (.loadFailed path) = opening path (texts.map String.toList) := by
  obtain ⟨changed, wrote, same⟩ := Except.bind_eq_ok.mp h
  cases same
  rw [load_of_text (FileSystem.read_write wrote), ← Lines.split_eq]
  cases texts with
  | nil =>
    -- no lines are written as an empty one
    have silent (key value : String) : ¬Tells [] key value := fun tells => by
      cases tells_iff.mp tells
    exact opening_insert (fun key value tells => (silent key value tells).elim) _ [] []
  | cons => rw [Lines.split_intercalate plain (List.cons_ne_nil _ _)]

end Manifest

/-! ## 7. The record of openings -/

namespace Context

variable {ctx : Context}

theorem counts_of_loads (loads : ctx.settings.loader = Manifest.loader) :
    ctx.settings.loader.counts = true := by
  rw [loads]
  rfl

theorem openFile_of_error (loads : ctx.settings.loader = Manifest.loader) {fs : FileSystem}
    {path : Path} {reason : String} (load : Manifest.load fs path = .error reason) :
    ctx.openFile fs path =
      (.error (.loadFailed path reason), { ctx with opened := ctx.opened ++ [path] }) := by
  have refused : ctx.settings.loader.load fs path = .error reason := by
    rw [loads]
    exact load
  simp only [openFile, recordOpening_frame, refused]
  rw [recordOpening, if_pos (counts_of_loads loads)]

theorem openFile_of_ok (loads : ctx.settings.loader = Manifest.loader) {fs : FileSystem}
    {path : Path} {m : Module} (load : Manifest.load fs path = .ok m) :
    ctx.openFile fs path = (.ok m, { ctx with
      opened := ctx.opened ++ [path], handles := ctx.handles ++ [.opened path] }) := by
  have loaded : ctx.settings.loader.load fs path = .ok m := by
    rw [loads]
    exact load
  have quiet : ¬ctx.settings.loader.announces = true := by
    rw [loads]
    exact Bool.false_ne_true
  simp only [openFile, recordOpening_frame, loaded]
  rw [recordOpening, if_pos (counts_of_loads loads), acquire, if_neg quiet]

theorem openFile_fst (loads : ctx.settings.loader = Manifest.loader) (fs : FileSystem)
    (path : Path) :
    (ctx.openFile fs path).1 = (Manifest.load fs path).mapError (.loadFailed path) := by
  cases load : Manifest.load fs path with
  | error reason =>
    rw [openFile_of_error loads load]
    rfl
  | ok m =>
    rw [openFile_of_ok loads load]
    rfl

/-- **An opening is on record whatever its result is**, and a module that it gives counts as
    open. -/
theorem openFile_record (loads : ctx.settings.loader = Manifest.loader) (fs : FileSystem)
    (path : Path) :
    (ctx.openFile fs path).2.opened = ctx.opened ++ [path] ∧
    (∀ m, (ctx.openFile fs path).1 = .ok m → (ctx.openFile fs path).2.live = ctx.live + 1) ∧
    ∀ e, (ctx.openFile fs path).1 = .error e → (ctx.openFile fs path).2.live = ctx.live := by
  cases load : Manifest.load fs path with
  | error reason =>
    rw [openFile_of_error loads load]
    exact ⟨rfl, nofun, fun e _ => rfl⟩
  | ok m =>
    rw [openFile_of_ok loads load]
    refine ⟨rfl, fun m _ => ?_, nofun⟩
    have counts := counts_of_loads loads
    rw [live, live, if_pos counts, if_pos counts, HandleMove.net_append]
    rfl

/-- **What opening the file of a manifest does.** It is on record that the file was opened, and one
    module more is open exactly if it gives one. A file that cannot be read, or has no text in it,
    is refused for that reason. A text gives what its lines tell: the first `fail` is the reason why
    there is no module, and otherwise the names are exported that lines export, each as the last of
    them tells. Any other line could be left out. A manifest that was written gives what the lines
    tell that it was written with. -/
theorem openFile_reads (ctx : Context) (loads : ctx.settings.loader = Manifest.loader)
    (fs : FileSystem) (path : Path) :
    (ctx.openFile fs path).2.opened = ctx.opened ++ [path] ∧
    (∀ m, (ctx.openFile fs path).1 = .ok m → (ctx.openFile fs path).2.live = ctx.live + 1) ∧
    (∀ e, (ctx.openFile fs path).1 = .error e → (ctx.openFile fs path).2.live = ctx.live) ∧
    (∀ cause, fs.read path = .error cause →
      (ctx.openFile fs path).1 = .error (.loadFailed path cause.message)) ∧
    (∀ content, fs.read path = .ok content → (∀ text, content ≠ .bytes (Utf8.encode text)) →
      (ctx.openFile fs path).1 = .error (.loadFailed path IoError.notText.message)) ∧
    (∀ text, fs.read path = .ok (.bytes (Utf8.encode text)) →
      (ctx.openFile fs path).1 = Manifest.opening path (text.toList.splitOn '\n')) ∧
    (∀ lines, Manifest.Reads path lines (Manifest.opening path lines)) ∧
    (∀ before line after,
      (∀ key value, Manifest.Tells line key value →
        key ≠ "fail" ∧ key ≠ "version" ∧ key ≠ "symbol") →
      Manifest.opening path (before ++ line :: after) = Manifest.opening path (before ++ after)) ∧
    ∀ directory name texts written, (∀ t ∈ texts, '\n' ∉ t.toList) →
      Manifest.write fs directory name texts = .ok (written, path) →
      (ctx.openFile written path).1 = Manifest.opening path (texts.map String.toList) := by
  obtain ⟨opened, accepted, refused⟩ := openFile_record loads fs path
  refine ⟨opened, accepted, refused, ?_, ?_, ?_, Manifest.reads_opening path, ?_, ?_⟩
  · intro cause unread
    rw [openFile_fst loads, Manifest.load_of_error unread]
    rfl
  · intro content read noText
    rw [openFile_fst loads, Manifest.load_of_noText read noText]
    rfl
  · intro text read
    rw [openFile_fst loads, Manifest.load_of_text read]
  · intro before line after silent
    exact Manifest.opening_insert silent path before after
  · intro directory name texts written plain wrote
    rw [openFile_fst loads, Manifest.load_of_write plain wrote]

/-- The tree of the two copies with one more manifest. -/
def oneMore (texts : List String) : FileSystem :=
  ⟨.directory
    [(Utf8.encode "a", .directory
      [(Utf8.encode "x.mod", .file (Manifest.ofLines ["fail=bad"]))]),
     (Utf8.encode "b", .directory
      [(Utf8.encode "x.mod", .file (Manifest.ofLines ["version=1", "symbol=plugin_register"])),
       (Utf8.encode "y.mod", .file (Manifest.ofLines texts))])],
    [], []⟩

/-- A key that ends in a space is another key, so the manifest does not fail. The symbol `version`
    hides the version before it. -/
theorem openFile_reads_twoCopies :
    Manifest.write twoCopies (Path.ofString "/b") "y.mod"
      ["version=1", " symbol=version\t", "fail =no"] =
        .ok (oneMore ["version=1", " symbol=version\t", "fail =no"], Path.ofString "/b/y.mod") ∧
    ((fresh manifestSettings).openFile
      (oneMore ["version=1", " symbol=version\t", "fail =no"]) (Path.ofString "/b/y.mod")).1 =
        .ok ⟨Path.ofString "/b/y.mod", [("version", some ""), ("version", some "1")]⟩ ∧
    ((fresh manifestSettings).openFile
      (oneMore ["version=1", " symbol=version\t", "fail =no"]) (Path.ofString "/b/y.mod")).2.live =
        1 := by
  have written : Manifest.write twoCopies (Path.ofString "/b") "y.mod"
      ["version=1", " symbol=version\t", "fail =no"] =
        .ok (oneMore ["version=1", " symbol=version\t", "fail =no"], Path.ofString "/b/y.mod") := by
    cbv
  have entries : (["version=1", " symbol=version\t", "fail =no"].map String.toList).filterMap
      Manifest.Entry.ofLine? = [.version "1", .symbol "version"] := by decide +kernel
  obtain ⟨-, -, -, -, -, -, -, -, opens⟩ := openFile_reads (fresh manifestSettings) rfl twoCopies
    (Path.ofString "/b/y.mod")
  obtain ⟨-, counted, -⟩ := openFile_reads (fresh manifestSettings) rfl
    (oneMore ["version=1", " symbol=version\t", "fail =no"]) (Path.ofString "/b/y.mod")
  have module := opens _ _ _ _ (by decide) written
  rw [Manifest.opening, entries] at module
  exact ⟨written, module, counted _ module⟩

end Context

end PluginDiscovery
