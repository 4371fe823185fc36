import Switchboard.Settings.Decode
import Switchboard.Settings.Environment
import Switchboard.Settings.File
import Switchboard.Settings.Path

/-!
# Loading settings

Settings are made of three layers: the defaults, a file if one is named, and the environment. Each
layer is laid over the ones before it. Settings that cannot be used are refused.

A layer is a hash map: each time settings are loaded, its entries come in another order. Where two
of them lead to one place, what is loaded depends on the order. `load` takes them in the order of
their texts, `MayLoad` says what comes of any other.
-/

namespace Switchboard.Settings

/-- The layer below all others. -/
def defaults : Layer :=
  [("broker.channel_capacity", .int 1024), ("logging.level", .text "info")]

/-- The layers below the environment, the lowest first. -/
def under? (read : FileReader) (files : Files) : Option String → Option (List Layer)
  | none => some [defaults]
  | some name => (SettingsFile.layer? read files name).map fun layer => [defaults, layer]

/-- The layers laid over each other. -/
def merge (layers : List Layer) : ConfigTree :=
  layers.foldl (fun root layer => ConfigTree.apply layer root) (.table [])

/-- The settings that a tree describes, if they can be used. -/
def ofTree (v : ConfigTree) : Except SettingsError Settings := do
  match ofTree? v with
  | none => throw .load
  | some settings =>
    settings.validate
    return settings

/-- Loads the settings from the file `name`, if one is named and as `read` reads it, and the
environment. -/
def loadWith (read : FileReader) (files : Files) (name : Option String) (env : Environment) :
    Except SettingsError Settings :=
  match under? read files name with
  | none => throw .load
  | some layers => ofTree (merge (layers ++ [env.layer]))

def load : Files → Option String → Environment → Except SettingsError Settings :=
  loadWith FileFormat.read

/-! ### Entries in any order -/

/-- Layers are laid over the first tree, the entries of each in any order, which gives the second
one. -/
inductive Overlaid : List Layer → ConfigTree → ConfigTree → Prop
  | done (root : ConfigTree) : Overlaid [] root root
  | next {layer entries : Layer} {layers : List Layer} {root root' : ConfigTree}
      (order : entries.Perm layer)
      (others : Overlaid layers (ConfigTree.apply entries root) root') :
      Overlaid (layer :: layers) root root'

/-- The file and the environment make up the tree in some order of their entries. -/
def Makes (read : FileReader) (files : Files) (name : Option String) (env : Environment)
    (root : ConfigTree) : Prop :=
  ∃ layers ∈ under? read files name, Overlaid (layers ++ [env.layer]) (.table []) root

/-- What loading gives in some order of the entries. -/
def MayLoad (read : FileReader) (files : Files) (name : Option String) (env : Environment)
    (outcome : Except SettingsError Settings) : Prop :=
  under? read files name = none ∧ outcome = .error .load ∨
    ∃ root, Makes read files name env root ∧ ofTree root = outcome

end Switchboard.Settings
