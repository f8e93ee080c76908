import Mathlib
import PluginDiscovery.Proofs.Classification
import PluginDiscovery.Proofs.Reports

/-!
# Never more types than bits

A mask has 32 bits, and a type is known by its bit. So the registry stops at 32 types: what comes
later is refused and reported, and what is registered keeps its place and its bit. That the limit is
never passed is why the number of types fits into the byte of a bit index, and why no
classification asks a mask for a bit it does not have.

* `TypeMask.set?`, `TypeRegistry.classify?`: setting a bit and classifying, with a fault in place of
  an index that a mask does not have;
* `TypeRegistry.Numbered.classify?_eq`: a numbered registry classifies without a fault;
* `types_registerEntries`, `accepted_registerEntries`: what a list of configured types registers;
* `type_limit_invariant`: all of it, after every history.
-/

namespace PluginDiscovery

/-! ## 1. Classifying without a fault -/

/-- The mask with a bit set, or nothing for an index that a mask does not have. -/
def TypeMask.set? (mask : TypeMask) (index : UInt8) : Option TypeMask :=
  if index.toNat < 32 then some (mask.set index) else none

namespace TypeRegistry

variable {r : TypeRegistry}

/-- The bits of the types that accept a module, or nothing if one of them is no bit of a mask. -/
def classify? (r : TypeRegistry) (m : Module) : Option TypeMask :=
  r.types.foldlM (fun mask t => if t.accepts m then mask.set? t.bit else some mask) .empty

theorem Numbered.classify?_eq (h : r.Numbered) (m : Module) :
    r.classify? m = some (r.classify m) := by
  have fold : ∀ (types : List PluginType) (mask : TypeMask), (∀ t ∈ types, t.bit.toNat < 32) →
      types.foldlM (fun mask t => if t.accepts m then mask.set? t.bit else some mask) mask =
        some (types.foldl (fun mask t => if t.accepts m then mask.set t.bit else mask) mask) := by
    intro types
    induction types with
    | nil => exact fun _ _ => rfl
    | cons t rest ih =>
      intro mask small
      have step : (if t.accepts m then mask.set? t.bit else some mask) =
          some (if t.accepts m then mask.set t.bit else mask) := by
        rw [TypeMask.set?, if_pos (small t List.mem_cons_self)]
        split <;> rfl
      rw [List.foldlM_cons, step]
      exact ih _ fun u hu => small u (List.mem_cons_of_mem t hu)
  exact fold r.types .empty fun t ht => h.bit_lt ht

/-- The number of types fits into a byte. -/
theorem Numbered.toNat_size (h : r.Numbered) : r.size.toUInt8.toNat = r.size :=
  UInt8.toNat_ofNat_of_lt' (Nat.lt_of_le_of_lt h.size_le (by decide))

end TypeRegistry

/-! ## 2. Registering a list -/

/-- The type that a configured type becomes at a position of the registry. -/
def TypeEntry.typeAt (entry : TypeEntry) (position : Nat) : PluginType :=
  ⟨entry.name, position.toUInt8, PluginType.requiresSymbol entry.symbol⟩

namespace Context

variable (ctx : Context)

/-- A full registry refuses a type, and all that happens is a report. -/
theorem registerType_of_full (full : 32 ≤ ctx.types.size) (name : String)
    (accepts : Module → Bool) :
    ctx.registerType name accepts =
      (.error (.typeLimit name 32), ctx.report ⟨.failure, (PluginError.typeLimit name 32).message⟩) := by
  have full : Abi.maxTypes ≤ ctx.types.size := full
  rw [registerType, TypeRegistry.register, if_pos full]
  rfl

/-- The context in which a type was registered. -/
def typing (t : PluginType) : Context :=
  { ctx with types := ⟨ctx.types.types ++ [t]⟩ }.note (.typeRegistered t.name t.bit)

@[simp] theorem types_typing (t : PluginType) :
    (ctx.typing t).types.types = ctx.types.types ++ [t] :=
  rfl

@[simp] theorem size_typing (t : PluginType) :
    (ctx.typing t).types.size = ctx.types.size + 1 := by
  simp [TypeRegistry.size]

/-- A registry with room gives a type the bit of its position. -/
theorem registerType_of_room (room : ctx.types.size < 32) (name : String)
    (accepts : Module → Bool) :
    ctx.registerType name accepts =
      (.ok ctx.types.size.toUInt8, ctx.typing ⟨name, ctx.types.size.toUInt8, accepts⟩) := by
  have room : ¬ Abi.maxTypes ≤ ctx.types.size := Nat.not_le.mpr room
  rw [registerType, TypeRegistry.register, if_neg room]
  rfl

/-- Configured types are requested one after the other. -/
theorem requests_registerEntries (entries : List TypeEntry) :
    (ctx.registerEntries entries).2.types = ctx.types.requestAll (entries.map fun entry =>
      (entry.name, PluginType.requiresSymbol entry.symbol)) := by
  induction entries generalizing ctx with
  | nil => rfl
  | cons entry rest ih =>
    have step : (ctx.registerEntries (entry :: rest)).2 =
        ((ctx.registerType entry.name (PluginType.requiresSymbol entry.symbol)).2.registerEntries
          rest).2 := by
      rw [registerEntries]
      split <;> (rename_i answer; rw [answer])
    rw [step, ih, types_registerType]
    rfl

/-- **As many of the configured types are registered as there are bits left**, the first ones in
    their order, each with the bit of its position. -/
theorem types_registerEntries (entries : List TypeEntry) :
    (ctx.registerEntries entries).2.types.types = ctx.types.types ++
      (entries.take (32 - ctx.types.size)).mapIdx fun i entry =>
        entry.typeAt (ctx.types.size + i) := by
  rw [requests_registerEntries, TypeRegistry.types_requestAll, ← List.map_take]
  refine congrArg (ctx.types.types ++ ·) (List.ext_getElem? fun i => ?_)
  rw [List.getElem?_mapIdx, List.getElem?_mapIdx, List.getElem?_map, Option.map_map]
  rfl

theorem accepted_registerEntries (entries : List TypeEntry) :
    (ctx.registerEntries entries).1 = min entries.length (32 - ctx.types.size) := by
  induction entries generalizing ctx with
  | nil => simp [registerEntries]
  | cons entry rest ih =>
    rcases Nat.lt_or_ge ctx.types.size 32 with room | full
    · simp only [registerEntries, registerType_of_room ctx room]
      rw [ih, size_typing, List.length_cons]
      omega
    · simp only [registerEntries, registerType_of_full ctx full]
      rw [ih, (ctx.report_frame _).2.1]
      omega

/-- Going through entries of a directory leaves the types alone. -/
theorem types_entries (fs : FileSystem) (mode : FailureMode) (directory : Path)
    (es : List FileSystem.Entry) (state : ScanStats × Context) :
    (es.foldl (scanEntry fs mode directory) state).2.types = state.2.types := by
  induction es generalizing state with
  | nil => rfl
  | cons e rest ih =>
    obtain ⟨stats, c⟩ := state
    rw [List.foldl_cons, ih]
    cases standing : c.settings.standing e with
    | candidate name =>
      rw [c.scanEntry_candidate fs mode standing]
      exact (c.consider_frame fs mode _ name).2.1
    | foreign name => simp [scanEntry, standing]
    | other => simp [scanEntry, standing]
    | excluded name => simp [scanEntry, standing]

end Context

/-! ## 3. The limit along a history -/

/-- **A context never has more than 32 types, and each has the bit of its position.** Its types
    classify every module without a fault, also at the entries in the midst of a scan, and their
    number fits into a byte. A list of configured types is registered as far as there is room: the
    first entries get the next bits in their order, the earlier types stay, and for each entry
    that is left over there is one failure report with its name, in their order. A refused
    registration makes its report and changes nothing else. -/
theorem type_limit_invariant (settings : Settings) (history : List Operation) (ctx : Context)
    (reached : ctx = ((Context.fresh settings).runAll history).2) :
    ctx.types.size ≤ 32 ∧
    (∀ (i : Nat) (t : PluginType), ctx.types.types[i]? = some t → t.bit.toNat = i) ∧
    ctx.types.size.toUInt8.toNat = ctx.types.size ∧
    (∀ m, ctx.types.classify? m = some (ctx.types.classify m)) ∧
    (∀ fs mode directory (es : List FileSystem.Entry) (state : ScanStats × Context),
      state.2.types = ctx.types →
      (es.foldl (Context.scanEntry fs mode directory) state).2.types = ctx.types) ∧
    (∀ (c : Context) (entries : List TypeEntry),
      (c.registerEntries entries).1 = min entries.length (32 - c.types.size) ∧
      (c.registerEntries entries).2.types.types = c.types.types ++
        (entries.take (32 - c.types.size)).mapIdx (fun i entry =>
          entry.typeAt (c.types.size + i)) ∧
      (c.registerEntries entries).2.received = c.received ++
        (entries.drop (32 - c.types.size)).map (fun entry =>
          ⟨.failure, (PluginError.typeLimit entry.name 32).message⟩)) ∧
    (∀ (entry : TypeEntry) (position : Nat), position < 32 →
      (entry.typeAt position).name = entry.name ∧
      (entry.typeAt position).bit.toNat = position) ∧
    (∀ (c : Context) name accepts e, (c.registerType name accepts).1 = .error e →
      32 ≤ c.types.size ∧ e = .typeLimit name 32 ∧
      (c.registerType name accepts).2 = c.report ⟨.failure, e.message⟩ ∧
      (c.registerType name accepts).2.types = c.types) ∧
    (∀ name, (PluginError.typeLimit name 32).message =
      "At most 32 plugin types can be supported, so the plugin type '" ++ name
        ++ "' won't be supported.") := by
  have numbered : ctx.types.Numbered := by
    rw [reached]
    exact Context.numbered_runAll TypeRegistry.numbered_empty history
  refine ⟨numbered.size_le, numbered.bit_eq, numbered.toNat_size, numbered.classify?_eq,
    fun fs mode directory es state types => ?_, fun c entries => ⟨c.accepted_registerEntries entries,
    c.types_registerEntries entries, ?_⟩, fun entry position room => ⟨rfl, ?_⟩,
    fun c name accepts e refused => ?_, fun name => rfl⟩
  · rw [Context.types_entries, types]
  · rw [c.received_registerEntries, TypeRegistry.refusals, ← List.map_drop, List.map_map]
    rfl
  · exact UInt8.toNat_ofNat_of_lt' (Nat.lt_trans room (by decide))
  · rcases Nat.lt_or_ge c.types.size 32 with room | full
    · rw [c.registerType_of_room room] at refused
      cases refused
    · rw [c.registerType_of_full full] at refused ⊢
      cases refused
      exact ⟨full, rfl, rfl, (c.report_frame _).2.1⟩

/-- A context that knows 30 types. -/
def almostFull : Context :=
  ((Context.fresh manifestSettings).runAll
    [.registerEntries (List.replicate 30 ⟨"codec", Abi.codec⟩)]).2

/-- It has room for two of three more types, and the third one is reported. -/
theorem type_limit_invariant_almostFull :
    almostFull.types.size = 30 ∧
    (almostFull.registerEntries [⟨"a", "x"⟩, ⟨"b", "y"⟩, ⟨"c", "z"⟩]).1 = 2 ∧
    (almostFull.registerEntries [⟨"a", "x"⟩, ⟨"b", "y"⟩, ⟨"c", "z"⟩]).2.received = [⟨.failure,
      "At most 32 plugin types can be supported, so the plugin type 'c' won't be supported."⟩] := by
  obtain ⟨_, _, _, _, _, registered, _⟩ := type_limit_invariant manifestSettings _ almostFull rfl
  obtain ⟨_, types, received⟩ := registered (Context.fresh manifestSettings)
    (List.replicate 30 ⟨"codec", Abi.codec⟩)
  have size : almostFull.types.size = 30 :=
    (congrArg List.length types).trans
      (by simp [Context.fresh, TypeRegistry.empty, TypeRegistry.size])
  have silent : almostFull.received = [] :=
    received.trans (by decide)
  obtain ⟨accepted, _, received⟩ := registered almostFull [⟨"a", "x"⟩, ⟨"b", "y"⟩, ⟨"c", "z"⟩]
  rw [size] at accepted received
  rw [silent] at received
  exact ⟨size, accepted, received⟩

end PluginDiscovery
