import LateBound.Catalog.Registration
/-! Catalogs of the built-in kinds. Booleans, numbers and strings reach their members as copies;
lists and dictionaries are shared and change in place. -/
namespace LateBound

namespace BuiltinKind

def readOnly (name : String) (t : DeclaredType) (p : BuiltinProperty) : Accessor :=
  ⟨name, t, false, some (.property p), none⟩

def instanceMethod (name : String) (parameters : List Parameter) (returns : DeclaredType)
    (m : BuiltinMethod) : Signature where
  name := name
  parameters := parameters
  returns := returns
  body := .builtin m

def boolMethods : List Signature :=
  [instanceMethod "to_string" [] .string .boolToText]

def numberMethods : List Signature :=
  [instanceMethod "abs" [] .any (.number .absolute),
    instanceMethod "floor" [] .any (.number (.round .floor)),
    instanceMethod "ceil" [] .any (.number (.round .ceiling)),
    instanceMethod "round" [] .any (.number (.round .halfAway)),
    instanceMethod "to_int" [] .int (.number .toInt),
    instanceMethod "to_float" [] .float (.number .toFloat),
    instanceMethod "to_string" [] .string (.number .toText)]

def textMethods : List Signature :=
  [instanceMethod "to_upper" [] .string (.string .toUpper),
    instanceMethod "to_lower" [] .string (.string .toLower),
    instanceMethod "trim" [] .string (.string .trim),
    instanceMethod "contains" [{ name := "needle", type := .string }] .bool (.string .contains),
    instanceMethod "starts_with" [{ name := "prefix", type := .string }] .bool
      (.string .startsWith),
    instanceMethod "ends_with" [{ name := "suffix", type := .string }] .bool (.string .endsWith),
    instanceMethod "index_of" [{ name := "needle", type := .string }] .int (.string .indexOf),
    instanceMethod "substring"
      [{ name := "start", type := .int },
        { name := "length", type := .int, default := some (.int (-1)) }]
      .string (.string .substring),
    instanceMethod "split" [{ name := "separator", type := .string }] (.list .string)
      (.string .split),
    instanceMethod "replace" [{ name := "from", type := .string },
      { name := "to", type := .string }]
      .string (.string .replace)]

def listMethods : List Signature :=
  [instanceMethod "add" [{ name := "item", type := .any }] .void (.list .add),
    instanceMethod "insert" [{ name := "index", type := .int }, { name := "item", type := .any }]
      .void (.list .insert),
    instanceMethod "remove_at" [{ name := "index", type := .int }] .void (.list .removeAt),
    instanceMethod "contains" [{ name := "item", type := .any }] .bool (.list .contains),
    instanceMethod "index_of" [{ name := "item", type := .any }] .int (.list .indexOf),
    instanceMethod "clear" [] .void (.list .clear)]

def dictMethods : List Signature :=
  [instanceMethod "contains_key" [{ name := "key", type := .any }] .bool (.dict .containsKey),
    instanceMethod "remove" [{ name := "key", type := .any }] .bool (.dict .remove),
    instanceMethod "get"
      [{ name := "key", type := .any }, { name := "fallback", type := .any, default := some .null }]
      .any (.dict .get),
    instanceMethod "clear" [] .void (.dict .clear)]

def registration (kind : BuiltinKind) : Registration :=
  let base : Registration := { name := kind.name, representation := .builtin kind }
  match kind with
  | .bool => { base with methods := boolMethods }
  | .number =>
    { base with properties := [readOnly "is_integer" .bool .isInteger], methods := numberMethods }
  | .string => { base with properties := [readOnly "length" .int .length], methods := textMethods }
  | .list => { base with properties := [readOnly "count" .int .listCount], methods := listMethods }
  | .dict =>
    { base with
      properties :=
        [readOnly "count" .int .dictCount, readOnly "keys" (.list .any) .keys,
          readOnly "values" (.list .any) .values]
      methods := dictMethods }

def catalog (kind : BuiltinKind) : Catalog := kind.registration.freeze (.builtin kind)

theorem problem?_registration (kind : BuiltinKind) : kind.registration.problem? = none := by
  cases kind <;> decide

end BuiltinKind

end LateBound
