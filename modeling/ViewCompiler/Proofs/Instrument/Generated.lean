import ViewCompiler.Instrument.Callback
import ViewCompiler.Proofs.Writer.Text

/-!
# The generated code, written out

The three texts that a callback is put into are made by a writer. Here they are read off as plain texts, with the
callback between what stands before and behind it (`returnBlock_eq`, `forwardingArrow_eq`, `wrapper_eq`). In each of
them the callback is moved one level deeper, and so is any passage of it, whatever else is in the callback
(`lays_returnBlock` and the two beside it).
-/

namespace ViewCompiler

open Text

namespace Instrument

open Writer

variable {o : Options} {base : Text}

theorem returnBlock_eq (o : Options) (base value : Text) :
    returnBlock o base value = indent base (['\x7b'] ++ '\n' :: o.indentText ++
      indent o.indentText ("return ".toList ++ dedent base value) ++ ['\n', '\x7d']) := by
  have hhead : List.getLast? ['\x7b'] = some '\x7b' := rfl
  have hblock := text_block_line (c := 'r') hhead (by decide) [] fun s w (hw : At o.indentText 1 s w) => by
      rw [List.append_nil]
      exact At.line hw ("return ".toList ++ dedent base value)
  exact congrArg (indent base) hblock

/-- The line in front of the block of a generated arrow function. -/
def heading (o : Options) : Text := "(" ++ o.restParameter ++ ") => \x7b"

theorem getLast?_heading (o : Options) : (heading o).getLast? = some '\x7b' := by
  rw [heading, List.getLast?_append]
  rfl

theorem forwardingArrow_eq (o : Options) (base function : Text) :
    forwardingArrow o base function = indent base (heading o ++ '\n' :: o.indentText ++
      indent o.indentText ("return ".toList ++ dedent base function ++ ("(".toList ++ (o.spreadArguments ++ ")".toList))) ++
        ['\n', '\x7d']) := by
  have hblock := text_block_line (c := 'r') (getLast?_heading o) (by decide) []
    fun s w (hw : At o.indentText 1 s w) => by
      rw [List.append_nil]
      exact At.line hw ("return ".toList ++ dedent base function ++ "(".toList ++ o.spreadArguments ++ ")".toList)
  rw [← List.append_assoc, ← List.append_assoc]
  exact congrArg (indent base) hblock

theorem wrapper_eq (o : Options) (statement : Text) (slot : Slot) (base callback : Text) :
    wrapper o (injectStatement statement slot) base callback = indent base (heading o ++ '\n' :: o.indentText ++
      indent o.indentText ("const ".toList ++ o.resultName ++ " = (".toList ++ dedent base callback ++
        (")(".toList ++ (o.spreadArguments ++ ")".toList))) ++
          ('\n' :: (indented o.indentText statement ++ indented o.indentText ("return ".toList ++ o.resultName)) ++
            ['\x7d'])) := by
  have hblock := text_block_line (c := 'c') (getLast?_heading o) (by decide)
    (indented o.indentText statement ++ indented o.indentText ("return ".toList ++ o.resultName)) fun s w (hw : At o.indentText 1 s w) => by
      rw [← List.append_assoc, ← List.append_assoc]
      exact At.line (At.line (At.line hw ("const ".toList ++ o.resultName ++ " = (".toList ++ dedent base callback ++
        ")(".toList ++ o.spreadArguments ++ ")".toList)) statement) ("return ".toList ++ o.resultName)
  rw [← List.append_assoc ( _ ++ dedent base callback), ← List.append_assoc ( _ ++ ")(".toList)]
  exact congrArg (indent base) hblock

/-! ### The callback moves one level deeper -/

theorem lays_nested (unit : Text) (hbase : base.isAllBlank = true) (s t s' t' : Text) :
    Lays (fun x => indent base (s ++ indent unit (s' ++ dedent base x ++ t') ++ t)) (deepen unit base) := by
  have hdedent := (steady_dedentLine hbase).lays.comp (lays_append s' t')
  have hunit := (hdedent.comp (steady_indentLine unit).lays).comp (lays_append s t)
  exact hunit.comp (steady_indentLine base).lays

theorem lays_returnBlock (o : Options) (hbase : base.isAllBlank = true) :
    Lays (returnBlock o base) (deepen o.indentText base) := by
  have heq : returnBlock o base = fun x => indent base (['\x7b'] ++ '\n' :: o.indentText ++
      indent o.indentText ("return ".toList ++ dedent base x ++ []) ++ ['\n', '\x7d']) := by
    funext x
    rw [returnBlock_eq, List.append_nil]
  rw [heq]
  exact lays_nested o.indentText hbase _ _ _ _

theorem lays_forwardingArrow (o : Options) (hbase : base.isAllBlank = true) :
    Lays (forwardingArrow o base) (deepen o.indentText base) := by
  rw [funext (forwardingArrow_eq o base)]
  exact lays_nested o.indentText hbase _ _ _ _

theorem lays_wrapper (o : Options) (statement : Text) (slot : Slot) (hbase : base.isAllBlank = true) :
    Lays (wrapper o (injectStatement statement slot) base) (deepen o.indentText base) := by
  rw [funext (wrapper_eq o statement slot base)]
  exact lays_nested o.indentText hbase _ _ _ _

end Instrument

end ViewCompiler
