import ScriptLoader.Options.Setting

/-!
# Merging options

Both sources of a request are laid over the defaults, in the order of the keys, and the
first value that is not valid decides the error. A key that is no option makes no
difference, nor does the label, which belongs to the key of the instance.
-/

namespace ScriptLoader.LoaderOptions

/-- Puts the value of a key into options. -/
def apply (options : LoaderOptions) (key : String) (value : Json) :
    Except ConfigError LoaderOptions :=
  match OptionName.ofKey? key with
  | none => .ok options
  | some name =>
    match Setting.read? name value with
    | .error cause => .error cause
    | .ok none => .ok options
    | .ok (some setting) => .ok (setting.put options)

/-- Puts the values of several keys into options. -/
def applyAll (options : LoaderOptions) : List (String × Json) → Except ConfigError LoaderOptions
  | [] => .ok options
  | (key, value) :: rest =>
    match options.apply key value with
    | .error cause => .error cause
    | .ok options => options.applyAll rest

/-- The options that two sources give to an instance. -/
def merge (sources : OptionSources) (key : String) : Except ConfigError LoaderOptions :=
  (defaults key).applyAll sources.merged.toList

/-- Whether a key with a value is noted as one that means nothing. -/
def isUnknown (key : String) (value : Json) : Bool :=
  (OptionName.ofKey? key).isNone && key ≠ "instance" &&
    (match value with
      | .null => false
      | _ => true)

/-- The events of putting values into options, up to the first that is not valid. -/
def entryEvents (options : LoaderOptions) : List (String × Json) → List Event
  | [] => []
  | (key, value) :: rest =>
    match options.apply key value with
    | .error _ => []
    | .ok options =>
      if isUnknown key value then
        .debug ("Ignoring unknown loader option `" ++ key ++ "`") ::
          options.entryEvents rest
      else options.entryEvents rest

/-- The events of merging two sources. -/
def mergeEvents (sources : OptionSources) (key : String) : List Event :=
  (defaults key).entryEvents sources.merged.toList

end ScriptLoader.LoaderOptions
