import EventRollup.Text.Blank
import EventRollup.Error

namespace EventRollup

/-- Name of the grouping key in grouped rows, and of the identifier in stored documents. -/
def groupKey : String := "_id"

/-- What keeps a text from naming a field. A field name can then never be read as a store operator
or as a path, nor address the grouping key. -/
def FieldName.fault? (raw : String) : Option FieldFault :=
  if (Text.trimChars raw.toList).isEmpty then some .empty
  else if raw.toList.head? = some '$' then some .leadingDollar
  else if '.' ∈ raw.toList then some .nestedPath
  else if '\x00' ∈ raw.toList then some .nulCharacter
  else if raw = groupKey then some .groupingKey
  else none

structure FieldName where
  text : String
  faultless : FieldName.fault? text = none
deriving DecidableEq

namespace FieldName

def parse (raw : String) : Except Error FieldName :=
  match h : fault? raw with
  | none => .ok ⟨raw, h⟩
  | some fault => .error (.invalidFieldName raw fault)

def reference (f : FieldName) : String := "$" ++ f.text

end FieldName

end EventRollup
