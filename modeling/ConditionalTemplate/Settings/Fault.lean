import ConditionalTemplate.Binary64.Printer
import ConditionalTemplate.Json.Basic
import ConditionalTemplate.Json.Fault
import ConditionalTemplate.Settings.Basic
import ConditionalTemplate.Text.Quoted
import ConditionalTemplate.Value.Display

/-!
# Faults of settings

Why a JSON text does not give settings, and how each fault is worded.
-/

namespace ConditionalTemplate.Settings

/-- The beginning of a JSON value; arrays and objects are not read further. -/
inductive Found where
  | null
  | boolean (b : Bool)
  | number (n : Json.Number)
  | string (s : String)
  | array
  | object
deriving DecidableEq

def Found.phrase : Found → List Char
  | null => "null".toList
  | boolean b => "boolean ".toList ++ '\x60' :: Value.boolText b ++ ['\x60']
  | number (.natural n) => "integer ".toList ++ '\x60' :: Integer.text n.toNat ++ ['\x60']
  | number (.negative n) => "integer ".toList ++ '\x60' :: Integer.text n.toInt ++ ['\x60']
  | number (.double f) => "floating point ".toList ++ '\x60' :: f.text ++ ['\x60']
  | string s => "string ".toList ++ Text.quoted s.toList
  | array => "sequence".toList
  | object => "map".toList

/-- What has to stand at a place of the settings. -/
inductive Expected where
  | path
  | boolean
  | settings
deriving DecidableEq, Repr

def Expected.phrase : Expected → String
  | path => "path string"
  | boolean => "a boolean"
  | settings => "struct RendererConfig"

inductive Fault where
  /-- The text is no JSON. -/
  | malformed (fault : Json.Fault)
  /-- A field is there twice. -/
  | repeated (field : Field)
  /-- A value is of the wrong kind. -/
  | mismatch (found : Found) (expected : Expected)
deriving DecidableEq

def Fault.message : Fault → String
  | malformed fault => fault.message
  | repeated field => "duplicate field `" ++ field.name ++ "`"
  | mismatch found expected =>
    "invalid type: " ++ String.ofList found.phrase ++ ", expected " ++ expected.phrase

end ConditionalTemplate.Settings
