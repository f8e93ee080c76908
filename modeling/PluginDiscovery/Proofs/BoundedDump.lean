import PluginDiscovery.Proofs.DumpLines

/-!
# A dump and a writer of limited size

A dump goes out in many small pieces, and the writing stops at the first that does not fit. The part
of it that fits is kept, so what the writer holds at the end is the beginning of the text, whatever
piece it is cut in, and it is all of the text if there is room for it.

* `BoundedWriter.write_eq`: one piece;
* `BoundedWriter.writeAll_eq`: the pieces until one does not fit, by the text they make together;
* `dump_bounded`: the dump of any context.
-/

namespace PluginDiscovery

/-! ## 1. Pieces -/

namespace BoundedWriter

variable {w : BoundedWriter}

/-- A piece is added as far as there is room, and it fits if all of it was added. -/
theorem write_eq (h : w.held.length ≤ w.capacity) (piece : Bytes) :
    w.write piece = (decide ((w.held ++ piece).length ≤ w.capacity),
      ⟨w.capacity, (w.held ++ piece).take w.capacity⟩) := by
  have fits : piece.length ≤ w.capacity - w.held.length ↔
      (w.held ++ piece).length ≤ w.capacity := by
    rw [List.length_append]
    omega
  rw [write, List.take_append, List.take_of_length_le h, decide_eq_decide.mpr fits]

/-- **Pieces are added as far as there is room for the text they make**, and all of them are written
    if it is the whole text. -/
theorem writeAll_eq (h : w.held.length ≤ w.capacity) (pieces : List Bytes) :
    w.writeAll pieces = (decide ((w.held ++ pieces.flatten).length ≤ w.capacity),
      ⟨w.capacity, (w.held ++ pieces.flatten).take w.capacity⟩) := by
  induction pieces generalizing w with
  | nil =>
    rw [writeAll, List.flatten_nil, List.append_nil, List.take_of_length_le h, decide_eq_true h]
  | cons piece rest ih =>
    rw [writeAll, write_eq h, List.flatten_cons, ← List.append_assoc]
    by_cases fits : (w.held ++ piece).length ≤ w.capacity
    · rw [decide_eq_true fits, List.take_of_length_le fits]
      exact ih fits
    · -- what comes after the cut adds nothing to what is held
      have longer : ¬(w.held ++ piece ++ rest.flatten).length ≤ w.capacity := by
        rw [List.length_append]
        omega
      rw [decide_eq_false fits, decide_eq_false longer,
        List.take_append_of_le_length (Nat.le_of_not_le fits)]

end BoundedWriter

/-! ## 2. The bytes of a text -/

theorem Utf8.encode_join (texts : List String) :
    encode (String.join texts) = (texts.map encode).flatten := by
  rw [encode, String.toList_join, List.flatMap_assoc]
  exact List.flatMap_def

/-- The pieces of a dump make its text. -/
theorem Context.encode_dump (ctx : Context) :
    Utf8.encode ctx.dump =
      ((ctx.descriptions.flatMap Description.pieces).map Utf8.encode).flatten := by
  have lines (ds : List Description) :
      String.join (ds.map Description.line) = String.join (ds.flatMap Description.pieces) := by
    induction ds with
    | nil => rfl
    | cons d rest ih =>
      rw [List.map_cons, String.join_cons, List.flatMap_cons, String.join_append, ih]
      rfl
  rw [dump, lines, Utf8.encode_join]

/-! ## 3. All of it -/

/-- **A writer holds the beginning of the dump as far as there is room for it.** The dump is a line for
    each plugin in the order of registration: its name, its version, the names of its types with
    commas between them, and its path, divided by tabs. Of its bytes as many are written as fit,
    wherever the cut falls; the writing succeeds if all of them fit, and fails with `writeZero` if
    not; and the context stays as it is. -/
theorem dump_bounded (ctx : Context) (capacity : Nat) :
    ctx.dump = String.join (ctx.plugins.plugins.map fun p =>
      p.name ++ "\t" ++ p.version ++ "\t" ++
        ", ".intercalate ((ctx.types.types.filter fun t => p.mask.contains t.bit).map PluginType.name) ++
          "\t" ++ p.path.shown ++ "\n") ∧
    (ctx.dumpAll capacity).2 =
      (Utf8.encode ctx.dump).take (min capacity (Utf8.encode ctx.dump).length) ∧
    (ctx.dumpAll capacity).1 =
      (if (Utf8.encode ctx.dump).length ≤ capacity then .ok () else .error IoError.writeZero) ∧
    (Operation.dump capacity).run ctx =
      (.dumped (decide ((Utf8.encode ctx.dump).length ≤ capacity))
        ((Utf8.encode ctx.dump).take capacity), ctx) := by
  have written : ctx.dumpInto capacity = (decide ((Utf8.encode ctx.dump).length ≤ capacity),
      ⟨capacity, (Utf8.encode ctx.dump).take capacity⟩) := by
    have empty : (BoundedWriter.ofCapacity capacity).held.length ≤ capacity := Nat.zero_le capacity
    rw [Context.dumpInto, BoundedWriter.writeAll_eq empty, ← ctx.encode_dump]
    rfl
  refine ⟨?_, ?_, ?_, ?_⟩
  · have line (d : Description) : d.line = d.name ++ "\t" ++ d.version ++ "\t" ++ d.types ++ "\t" ++
        d.path ++ "\n" := by
      simp [Description.line, Description.pieces, String.append_assoc]
    rw [Context.dump, Context.descriptions, List.map_map]
    exact congrArg String.join (List.map_congr_left fun p _ => line (ctx.describe p))
  · rw [Context.dumpAll, written, List.take_eq_take_min]
  · rw [Context.dumpAll, written]
    simp only [decide_eq_true_iff]
  · rw [Operation.run, written]

/-- A writer of eight bytes is cut off in the version, and there in the middle of a character. -/
theorem dump_bounded_accent :
    (codecContext "codec" "vé").dump = "x.mod\tvé\tcodec\t/a/x.mod\n" ∧
    ((codecContext "codec" "vé").dumpAll 8).2 = Utf8.encode "x.mod\tv" ++ [0xC3] ∧
    ((codecContext "codec" "vé").dumpAll 8).1 = .error IoError.writeZero := by
  have text : (codecContext "codec" "vé").dump = "x.mod\tvé\tcodec\t/a/x.mod\n" := by
    rw [Context.dump, descriptions_codecContext "codec" (by decide)]
    rfl
  obtain ⟨-, held, answer, -⟩ := dump_bounded (codecContext "codec" "vé") 8
  rw [text] at held answer
  exact ⟨text, held.trans (by decide), answer.trans (by decide)⟩

end PluginDiscovery
