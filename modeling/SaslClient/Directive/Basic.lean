import SaslClient.Directive.Scan
import SaslClient.Fields
import SaslClient.Text.Characters
import SaslClient.Text.Utf8
/-!
# Directives

What a challenge tells: values under names, read from octets by `Directives.parse`. The octets are
scanned as they are, after a check that they are UTF-8; `Directives.parseText` reads the characters
of a text instead. A writer adds directives to a text one after the other, with commas between them.
-/
namespace SaslClient

abbrev Directives := Fields

inductive DirectiveError
  | invalidUtf8 (reason : Utf8.Error)
  | malformed (fault : Scan.Fault String)
deriving DecidableEq, Repr

namespace DirectiveError

def faultMessage : Scan.Fault String → String
  | .emptyName => "empty directive name"
  | .missingEquals name => "no value for directive " ++ Quoted.quote name
  | .emptyValue name => "empty value for directive " ++ Quoted.quote name
  | .unterminatedQuote name => "unterminated quoted value for directive " ++ Quoted.quote name
  | .trailingData name =>
    "unexpected data after quoted value of directive " ++ Quoted.quote name

def message : DirectiveError → String
  | invalidUtf8 reason => "invalid UTF-8: " ++ reason.message
  | malformed fault => faultMessage fault

def source? : DirectiveError → Option String
  | invalidUtf8 reason => some reason.message
  | malformed _ => none

end DirectiveError

namespace Directives

/-- Reads a payload. A name that comes back takes its last value, and nothing is kept of a payload
with a fault. -/
def parse (payload : List UInt8) : Except DirectiveError Directives :=
  match Utf8.decode payload with
  | .error reason => .error (.invalidUtf8 reason)
  | .ok _ =>
    match Scan.directives payload with
    | .error fault => .error (.malformed (fault.map Utf8.text))
    | .ok found =>
      .ok (Fields.ofList (found.map fun (name, value) => (Utf8.text name, Utf8.text value)))

def parseText (payload : List Char) : Except (Scan.Fault String) Directives :=
  match Scan.directives payload with
  | .error fault => .error (fault.map String.ofList)
  | .ok found =>
    .ok (Fields.ofList (found.map fun (name, value) => (String.ofList name, String.ofList value)))

def escape (value : List Char) : List Char :=
  value.flatMap fun c => if c = '\\' ∨ c = '"' then ['\\', c] else [c]

theorem escape_cons (c : Char) (value : List Char) :
    escape (c :: value) =
      (if c = '\\' ∨ c = '"' then ['\\', c] else [c]) ++ escape value := by
  rw [escape, List.flatMap_cons]
  rfl

theorem escape_eq_self {value : List Char} (h : ∀ c ∈ value, c ≠ '\\' ∧ c ≠ '"') :
    escape value = value := by
  induction value with
  | nil => rfl
  | cons c value ih =>
    obtain ⟨hc, hvalue⟩ := List.forall_mem_cons.1 h
    rw [escape_cons, if_neg (not_or.2 hc), ih hvalue, List.singleton_append]

structure Writer where
  written : String := ""
deriving DecidableEq, Repr

namespace Writer

def append (w : Writer) (directive : String) : Writer :=
  ⟨if w.written = "" then directive else w.written ++ "," ++ directive⟩

def quoted (w : Writer) (name value : String) : Writer :=
  w.append (name ++ "=\"" ++ String.ofList (escape value.toList) ++ "\"")

def bare (w : Writer) (name value : String) : Writer :=
  w.append (name ++ "=" ++ value)

def finish (w : Writer) : String × Writer :=
  (w.written, {})

end Writer

end Directives

end SaslClient
