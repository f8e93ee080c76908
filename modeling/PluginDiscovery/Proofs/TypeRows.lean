import PluginDiscovery.Cli.Program
import PluginDiscovery.Proofs.ListingText
import PluginDiscovery.Proofs.TypeLimit

/-!
# The rows of the configured types

A row of the listing of types shows the bit of a configured type, or a dash if the type was refused.
The bit is looked up by the name of the type. Names may be repeated, and the lookup finds the first
type of a name: the rows are right as long as no entry among the first 32 has the name of a later one.

* `Context.answers`: what the configured types are answered when they are registered;
  `getElem?_answers`: the first 32 get their positions for bits, and the others are refused;
* `PluginConfig.shownPlace`: where the first type of a name stands, which is what its rows show;
* `types_rows_show_first`: when the rows show the answers, and when two of them show one bit.
-/

namespace PluginDiscovery

/-! ## 1. Answers -/

/-- What the configured types are answered, each after the registration of those before it. -/
def Context.answers (ctx : Context) : List TypeEntry → List (Except PluginError UInt8)
  | [] => []
  | entry :: rest =>
    let (answer, after) := ctx.registerType entry.name (PluginType.requiresSymbol entry.symbol)
    answer :: answers after rest

/-- What a row is to show of an answer. -/
def shownAnswer : Except PluginError UInt8 → String
  | .ok bit => toString bit.toNat
  | .error _ => refusedBit

namespace Context

/-- Registering the entries counts the answers that accept one. -/
theorem countP_answers (ctx : Context) (entries : List TypeEntry) :
    (ctx.answers entries).countP Except.toBool = (ctx.registerEntries entries).1 := by
  induction entries generalizing ctx with
  | nil => rfl
  | cons entry rest ih =>
    rcases Nat.lt_or_ge ctx.types.size 32 with room | full
    · simp only [answers, registerEntries, registerType_of_room ctx room, List.countP_cons, ih]
      rfl
    · simp only [answers, registerEntries, registerType_of_full ctx full, List.countP_cons, ih]
      rfl

/-- **An entry gets its place in the registry for a bit**, if it is the place of one. -/
theorem getElem?_answers (ctx : Context) (entries : List TypeEntry) (i : Nat) :
    (ctx.answers entries)[i]? = entries[i]?.map fun entry =>
      if ctx.types.size + i < 32 then .ok (ctx.types.size + i).toUInt8
      else .error (.typeLimit entry.name 32) := by
  induction entries generalizing ctx i with
  | nil => rfl
  | cons entry rest ih =>
    rcases Nat.lt_or_ge ctx.types.size 32 with room | full
    · simp only [answers, registerType_of_room ctx room]
      cases i with
      | zero => simp [room]
      | succ i =>
        rw [List.getElem?_cons_succ, List.getElem?_cons_succ, ih, size_typing, Nat.add_right_comm]
        rfl
    · simp only [answers, registerType_of_full ctx full]
      cases i with
      | zero => simp [full]
      | succ i =>
        have later : ∀ k, ¬ctx.types.size + k < 32 := fun k => by omega
        rw [List.getElem?_cons_succ, List.getElem?_cons_succ, ih, (ctx.report_frame _).2.1]
        simp only [later, if_false]

end Context

/-! ## 2. The lookup -/

/-- The first type of a name is what the first entry of that name becomes. -/
theorem find?_typeAt (entries : List TypeEntry) (start : Nat) (name : String) :
    ((entries.mapIdx fun i entry => entry.typeAt (start + i)).find? fun t => t.name = name).map
        PluginType.bit =
      (entries.findIdx? fun entry => entry.name = name).map fun i => (start + i).toUInt8 := by
  induction entries generalizing start with
  | nil => rfl
  | cons entry rest ih =>
    have shift : (fun i (entry : TypeEntry) => entry.typeAt (start + (i + 1))) =
        fun i entry => entry.typeAt (start + 1 + i) := by
      funext i entry
      rw [Nat.add_assoc, Nat.add_comm 1]
    rw [List.mapIdx_cons, List.findIdx?_cons, shift]
    by_cases same : entry.name = name
    · rw [List.find?_cons_of_pos (by simpa [TypeEntry.typeAt] using same)]
      simp [same, TypeEntry.typeAt]
    · rw [List.find?_cons_of_neg (by simpa [TypeEntry.typeAt] using same), ih]
      simp [same, Function.comp_def, Nat.add_assoc, Nat.add_comm 1]

namespace PluginConfig

variable (c : PluginConfig)

/-- The place of the first type of a name, if it is among those that there are bits for. -/
def shownPlace (name : String) : Option Nat :=
  (c.types.take 32).findIdx? fun entry => entry.name = name

/-- What the rows of a name show: its first place, or a dash. -/
def shownBit (name : String) : String :=
  match c.shownPlace name with
  | some place => toString place
  | none => refusedBit

theorem types_engine (platform : DynamicLoader) :
    (c.engine platform).types.types = (c.types.take 32).mapIdx fun i entry => entry.typeAt i := by
  have registered := (Context.fresh (c.settings platform)).types_registerEntries c.types
  simpa [engine, Context.fresh, TypeRegistry.empty, TypeRegistry.size] using registered

theorem shownPlace_lt {name : String} {place : Nat} (h : c.shownPlace name = some place) :
    place < 32 := by
  obtain ⟨lt, -⟩ := List.findIdx?_eq_some_iff_getElem.mp h
  rw [List.length_take] at lt
  omega

/-- The rows of a name show its first place. -/
theorem shownBit_engine (platform : DynamicLoader) (name : String) :
    (c.engine platform).types.shownBit name = c.shownBit name := by
  have found := find?_typeAt (c.types.take 32) 0 name
  simp only [Nat.zero_add, ← c.types_engine platform] at found
  rw [TypeRegistry.shownBit, TypeRegistry.get?, shownBit]
  change _ = (c.shownPlace name).map _ at found
  cases hfirst : c.shownPlace name with
  | none =>
    rw [hfirst, Option.map_none, Option.map_eq_none_iff] at found
    rw [found]
  | some place =>
    rw [hfirst, Option.map_some, Option.map_eq_some_iff] at found
    obtain ⟨t, ht, bit⟩ := found
    have small : place < 256 := Nat.lt_trans (c.shownPlace_lt hfirst) (by decide)
    simp only [ht, bit]
    exact congrArg toString (UInt8.toNat_ofNat_of_lt' small)

/-- An entry of a place that there is a bit for shows its place if it is the first of its name. -/
theorem shownPlace_eq_some_iff {i : Nat} {entry : TypeEntry} (at_i : c.types[i]? = some entry)
    (room : i < 32) :
    c.shownPlace entry.name = some i ↔
      ∀ (j : Nat) (earlier : TypeEntry), j < i → c.types[j]? = some earlier →
        earlier.name ≠ entry.name := by
  obtain ⟨bound, rfl⟩ := List.getElem?_eq_some_iff.mp at_i
  rw [shownPlace, List.findIdx?_eq_some_iff_getElem]
  simp only [List.getElem_take, List.length_take, decide_eq_true_eq]
  constructor
  · rintro ⟨_, _, first⟩ j earlier hj at_j
    obtain ⟨_, rfl⟩ := List.getElem?_eq_some_iff.mp at_j
    exact first j hj
  · intro first
    exact ⟨by omega, trivial, fun j hj => first j _ hj (List.getElem?_eq_getElem (by omega))⟩

/-- An entry for which there is no bit shows a dash if none among the first 32 has its name. -/
theorem shownPlace_eq_none_iff (name : String) :
    c.shownPlace name = none ↔
      ∀ (j : Nat) (earlier : TypeEntry), j < 32 → c.types[j]? = some earlier →
        earlier.name ≠ name := by
  rw [shownPlace, List.findIdx?_eq_none_iff]
  simp only [decide_eq_false_iff_not, List.mem_take_iff_getElem]
  constructor
  · intro absent j earlier hj at_j
    obtain ⟨bound, rfl⟩ := List.getElem?_eq_some_iff.mp at_j
    exact absent _ ⟨j, by omega, rfl⟩
  · rintro absent _ ⟨j, hj, rfl⟩
    exact absent j _ (by omega) (List.getElem?_eq_getElem (by omega))

/-- The answers to the configured types. -/
def answers (platform : DynamicLoader) : List (Except PluginError UInt8) :=
  (Context.fresh (c.settings platform)).answers c.types

theorem getElem?_answers (platform : DynamicLoader) (i : Nat) :
    (c.answers platform)[i]? = c.types[i]?.map fun entry =>
      if i < 32 then .ok i.toUInt8 else .error (.typeLimit entry.name 32) := by
  have answered := (Context.fresh (c.settings platform)).getElem?_answers c.types i
  simpa [answers, Context.fresh, TypeRegistry.empty, TypeRegistry.size] using answered

/-- No entry among the first 32 has the name of a later one. -/
def FirstNamesOnce : Prop :=
  ∀ (i j : Nat) (a b : TypeEntry), i < j → i < 32 → c.types[i]? = some a → c.types[j]? = some b →
    a.name ≠ b.name

end PluginConfig

/-- A number is no dash. -/
theorem toString_ne_refusedBit (n : Nat) : toString n ≠ refusedBit := by
  intro dash
  have read := Nat.toNat?_repr n
  rw [show n.repr = refusedBit from dash, show refusedBit.toNat? = none by cbv] at read
  cases read

/-- What a row is to show of a place in the list of types: its number, if it is the place of a bit. -/
def shownAt (i : Nat) : String :=
  if i < 32 then toString i else refusedBit

theorem shownAnswer_eq_shownAt (i : Nat) (name : String) :
    shownAnswer (if i < 32 then .ok i.toUInt8 else .error (.typeLimit name 32)) = shownAt i := by
  unfold shownAt
  split
  · next room => rw [shownAnswer, UInt8.toNat_ofNat_of_lt' (Nat.lt_trans room (by decide))]
  · rfl

/-- No two places are shown alike, unless as refused. -/
theorem shownAt_inj {i j : Nat} (before : i < j) (same : shownAt i = shownAt j) :
    shownAt i = refusedBit := by
  unfold shownAt at same ⊢
  by_cases room : j < 32
  · rw [if_pos room, if_pos (Nat.lt_trans before room)] at same
    exact absurd (Nat.repr_inj.mp same) (Nat.ne_of_lt before)
  · rw [if_neg room] at same
    exact same

namespace PluginConfig

variable (c : PluginConfig)

/-! ## 3. When the rows are right -/

/-- The answers to the types, as rows are to show them. -/
theorem map_shownAnswer (platform : DynamicLoader) :
    (c.answers platform).map shownAnswer = c.types.mapIdx fun i _ => shownAt i := by
  refine List.ext_getElem? fun i => ?_
  rw [List.getElem?_map, c.getElem?_answers platform, List.getElem?_mapIdx, Option.map_map]
  exact congrArg (c.types[i]?.map ·) (funext fun entry => shownAnswer_eq_shownAt i entry.name)

/-- The row of an entry shows its place if no earlier one among the first 32 has its name. -/
theorem shownBit_eq_shownAt_iff {i : Nat} {entry : TypeEntry} (at_i : c.types[i]? = some entry) :
    c.shownBit entry.name = shownAt i ↔
      ∀ (j : Nat) (earlier : TypeEntry), j < i → j < 32 → c.types[j]? = some earlier →
        earlier.name ≠ entry.name := by
  rcases Nat.lt_or_ge i 32 with room | full
  · have shown : c.shownBit entry.name = toString i ↔ c.shownPlace entry.name = some i := by
      rw [shownBit]
      cases c.shownPlace entry.name with
      | none => exact iff_of_false (toString_ne_refusedBit i).symm (by simp)
      | some place => exact Nat.repr_inj.trans Option.some_inj.symm
    rw [shownAt, if_pos room, shown, c.shownPlace_eq_some_iff at_i room]
    exact ⟨fun first j earlier hj _ => first j earlier hj,
      fun first j earlier hj => first j earlier hj (Nat.lt_trans hj room)⟩
  · have shown : c.shownBit entry.name = refusedBit ↔ c.shownPlace entry.name = none := by
      rw [shownBit]
      cases c.shownPlace entry.name with
      | none => simp
      | some place => simpa using toString_ne_refusedBit place
    rw [shownAt, if_neg (Nat.not_lt.mpr full), shown, c.shownPlace_eq_none_iff]
    exact ⟨fun absent j earlier _ => absent j earlier,
      fun absent j earlier hj => absent j earlier (Nat.lt_of_lt_of_le hj full) hj⟩

/-- All rows show their places if no entry among the first 32 has the name of a later one. -/
theorem shownBits_eq_iff :
    (c.types.map fun entry => c.shownBit entry.name) = c.types.mapIdx (fun i _ => shownAt i) ↔
      c.FirstNamesOnce := by
  constructor
  · intro same i j a b before room at_i at_j
    have row := congrArg (·[j]?) same
    simp only [List.getElem?_map, List.getElem?_mapIdx, at_j, Option.map_some,
      Option.some_inj] at row
    exact (c.shownBit_eq_shownAt_iff at_j).mp row i a before room at_i
  · intro once
    refine List.ext_getElem? fun j => ?_
    rw [List.getElem?_map, List.getElem?_mapIdx]
    cases at_j : c.types[j]? with
    | none => rfl
    | some b =>
      exact congrArg some ((c.shownBit_eq_shownAt_iff at_j).mpr
        fun i a before room at_i => once i j a b before room at_i at_j)

/-- No two rows show one bit if no entry among the first 32 has the name of a later one. -/
theorem pairwise_shownBit_iff :
    (c.types.map fun entry => c.shownBit entry.name).Pairwise (fun a b => a = b → a = refusedBit) ↔
      c.FirstNamesOnce := by
  constructor
  · intro apart i j a b before room at_i at_j same
    obtain ⟨hi, rfl⟩ := List.getElem?_eq_some_iff.mp at_i
    obtain ⟨hj, rfl⟩ := List.getElem?_eq_some_iff.mp at_j
    rw [List.pairwise_map, List.pairwise_iff_getElem] at apart
    have dash := apart i j hi hj before (congrArg c.shownBit same)
    -- a dash is shown for a name that is not among the first 32
    rw [shownBit] at dash
    cases place : c.shownPlace c.types[i].name with
    | none => exact (c.shownPlace_eq_none_iff _).mp place i _ room at_i rfl
    | some k =>
      rw [place] at dash
      exact toString_ne_refusedBit k dash
  · intro once
    rw [c.shownBits_eq_iff.mpr once, List.pairwise_iff_getElem]
    intro i j _ _ before same
    rw [List.getElem_mapIdx] at same ⊢
    rw [List.getElem_mapIdx] at same
    exact shownAt_inj before same

end PluginConfig

/-! ## 4. What the user is shown -/

namespace Listing

variable (r : TypeRegistry) (entries : List TypeEntry)

theorem ofTypes_full : (ofTypes r entries).Full where
  columns := List.cons_ne_nil _ _
  cells row h := by
    obtain ⟨entry, mem, rfl⟩ := List.mem_map.mp h
    rfl

/-- Types as data: an object for each. -/
theorem write_ofTypes_json :
    (ofTypes r entries).write .json = dataText (entries.map fun entry =>
      [("\"bit\"", Json.quote (r.shownBit entry.name)), ("\"name\"", Json.quote entry.name),
        ("\"symbol\"", Json.quote entry.symbol)]) := by
  have bit : Json.quote "bit" = "\"bit\"" := by decide
  have name : Json.quote "name" = "\"name\"" := by decide
  have symbol : Json.quote "symbol" = "\"symbol\"" := by decide
  rw [(ofTypes_full r entries).write_json, ← bit, ← name, ← symbol, ofTypes, List.map_map]
  rfl

/-- Types in a frame: a row for each. -/
theorem write_ofTypes_table :
    (ofTypes r entries).write .table =
      if entries = [] then "No results found.\n"
      else frameText ["Bit", "Type", "Symbol"]
        (entries.map fun entry => [r.shownBit entry.name, entry.name, entry.symbol]) := by
  split
  · next none =>
    subst none
    rfl
  · next some =>
    have rows : (ofTypes r entries).rows ≠ [] := by simpa [ofTypes] using some
    rw [(ofTypes_full r entries).write_table rows, ofTypes, List.map_map]
    rfl

end Listing

/-- **A row of the types shows the bit of the first entry of its name.** The configured types are
    answered in their order, the first 32 with their places for bits, and the others with a refusal.
    The row of an entry shows the answer to it if and only if none among the first 32 entries that
    come before it has its name; as data it is an object, in a frame a row of cells. So all rows are
    right, and equally no two of them show one bit, if and only if no entry among the first 32 has
    the name of a later one. -/
theorem types_rows_show_first (p : Surroundings) (c : AppConfig) :
    (∀ (config environment : String) (format : OutputFormat),
      Command.run p ⟨config, environment, format, .types⟩ c = .ok p
        ((Listing.ofTypes (c.plugins.engine p.platform).types c.plugins.types).write format)
        (c.plugins.engine p.platform).log) ∧
    (Listing.ofTypes (c.plugins.engine p.platform).types c.plugins.types).rows =
      c.plugins.types.map (fun entry =>
        [.text (c.plugins.shownBit entry.name), .text entry.name, .text entry.symbol]) ∧
    (Listing.ofTypes (c.plugins.engine p.platform).types c.plugins.types).write .json =
      dataText (c.plugins.types.map fun entry =>
        [("\"bit\"", Json.quote (c.plugins.shownBit entry.name)),
          ("\"name\"", Json.quote entry.name), ("\"symbol\"", Json.quote entry.symbol)]) ∧
    (Listing.ofTypes (c.plugins.engine p.platform).types c.plugins.types).write .table =
      (if c.plugins.types = [] then "No results found.\n"
        else frameText ["Bit", "Type", "Symbol"] (c.plugins.types.map fun entry =>
          [c.plugins.shownBit entry.name, entry.name, entry.symbol])) ∧
    (c.plugins.answers p.platform).countP Except.toBool =
      ((Context.fresh (c.plugins.settings p.platform)).registerEntries c.plugins.types).1 ∧
    (∀ (i : Nat) (entry : TypeEntry), c.plugins.types[i]? = some entry →
      ∃ answer, (c.plugins.answers p.platform)[i]? = some answer ∧
        answer = (if i < 32 then .ok i.toUInt8 else .error (.typeLimit entry.name 32)) ∧
        (c.plugins.shownBit entry.name = shownAnswer answer ↔
          ∀ (j : Nat) (earlier : TypeEntry), j < i → j < 32 → c.plugins.types[j]? = some earlier →
            earlier.name ≠ entry.name)) ∧
    ((c.plugins.types.map fun entry => c.plugins.shownBit entry.name) =
        (c.plugins.answers p.platform).map shownAnswer ↔
      c.plugins.FirstNamesOnce) ∧
    ((c.plugins.types.map fun entry => c.plugins.shownBit entry.name).Pairwise
        (fun a b => a = b → a = refusedBit) ↔
      c.plugins.FirstNamesOnce) := by
  refine ⟨fun _ _ _ => rfl, ?_, ?_, ?_, Context.countP_answers _ _, fun i entry at_i => ?_, ?_,
    c.plugins.pairwise_shownBit_iff⟩
  · simp only [Listing.ofTypes, c.plugins.shownBit_engine]
  · simp only [Listing.write_ofTypes_json, c.plugins.shownBit_engine]
  · simp only [Listing.write_ofTypes_table, c.plugins.shownBit_engine]
  · have answered := c.plugins.getElem?_answers p.platform i
    rw [at_i, Option.map_some] at answered
    refine ⟨_, answered, rfl, ?_⟩
    rw [shownAnswer_eq_shownAt]
    exact c.plugins.shownBit_eq_shownAt_iff at_i
  · rw [c.plugins.map_shownAnswer]
    exact c.plugins.shownBits_eq_iff

/-- An ordinary user without files, on a platform that opens no library. -/
def bareSurroundings : Surroundings :=
  ⟨⟨.directory [], [], []⟩, Path.ofString "/", [], ⟨1000, 1000, 1000, 1000⟩, "",
    ⟨fun _ _ => .error ""⟩⟩

/-- A configuration with two types of one name. -/
def twoCodecs : AppConfig :=
  ⟨{ PluginConfig.standard with types := [⟨"codec", Abi.codec⟩, ⟨"codec", "register_codec2"⟩] },
    .standard⟩

/-- It is valid. The second type gets the bit 1, and its row shows the bit of the first one. -/
theorem types_rows_show_first_twoCodecs :
    twoCodecs.validate = .ok () ∧
    twoCodecs.plugins.types[1]? = some ⟨"codec", "register_codec2"⟩ ∧
    (twoCodecs.plugins.answers bareSurroundings.platform)[1]? = some (.ok 1) ∧
    shownAnswer (.ok 1) = "1" ∧ twoCodecs.plugins.shownBit "codec" ≠ "1" ∧
    ¬twoCodecs.plugins.FirstNamesOnce := by
  obtain ⟨-, -, -, -, -, answered, -⟩ := types_rows_show_first bareSurroundings twoCodecs
  obtain ⟨_, at_one, rfl, right⟩ := answered 1 ⟨"codec", "register_codec2"⟩ rfl
  rw [if_pos (by decide)] at at_one right
  have one : shownAnswer (.ok (Nat.toUInt8 1)) = "1" := by decide
  rw [one] at right
  refine ⟨rfl, rfl, at_one, one, fun shown => ?_, fun once => ?_⟩
  · exact right.mp shown 0 ⟨"codec", Abi.codec⟩ (by decide) (by decide) rfl rfl
  · exact once 0 1 _ _ (by decide) (by decide) rfl rfl rfl

end PluginDiscovery
