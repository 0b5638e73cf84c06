/-
Faults: inputs the program has no answer for.

A fault is none of the errors that are reported. It names what ended a run: a value of another
kind than the one needed, a text or a number beyond what can be read or written, or a
file system's refusal.
-/
import ApiCommands.Document.Json.Reader
import ApiCommands.Document.Yaml.Refusal
import ApiCommands.Text.Quoted

namespace ApiCommands

/-- What a file system refuses. -/
inductive FileError where
  | notFound
  | notDirectory
  | isDirectory
  | alreadyThere
  | nameTooLong
  | busy
  | noSpace
  deriving DecidableEq, Repr

/-- The number and the words of a refusal. -/
def FileError.text : FileError → String
  | notFound => "[Errno 2] No such file or directory"
  | notDirectory => "[Errno 20] Not a directory"
  | isDirectory => "[Errno 21] Is a directory"
  | alreadyThere => "[Errno 17] File exists"
  | nameTooLong => "[Errno 36] File name too long"
  | busy => "[Errno 16] Device or resource busy"
  | noSpace => "[Errno 28] No space left on device"

/-- The refusal about a path. -/
def FileError.about (e : FileError) (path : String) : String :=
  e.text ++ ": " ++ Text.quoted path

/-- An input the program has no answer for. -/
inductive Fault where
  /-- A text is needed, and something else is there. -/
  | notText
  /-- Something to go through is needed, and something else is there. -/
  | notIterable
  /-- A mapping is needed, and something else is there. -/
  | notMapping
  /-- A key is needed, and a list or a mapping is there. -/
  | notKey
  /-- Digits without a decimal value, or too many of them. -/
  | badNumeral
  /-- A composition that contains itself. -/
  | endlessComposition
  /-- A search for the fragments of a word that goes on for ever. -/
  | endlessSearch
  /-- Values that stand too deep one inside the other, in a text that is read. -/
  | tooDeep
  /-- Values that stand too deep one inside the other, in a value that is shown. -/
  | tooDeepToShow
  /-- A code point far beyond the last one. -/
  | codePointOverflow
  /-- A waiting time beyond all numbers. -/
  | delayOverflow
  /-- An address that cannot be read. -/
  | invalidAddress
  /-- An address without a scheme or without a host, answered all the same. -/
  | noHost
  /-- A text with characters that its encoding has no bytes for. -/
  | unencodable
  /-- A file that is no UTF-8 text. -/
  | undecodable
  /-- A reply of wide code units that does not say in which order their bytes are. -/
  | noByteOrder
  /-- A reply that is not compressed the way it says. -/
  | badCompression (reason : String)
  /-- A request that is led on too often. -/
  | tooManyRedirects (reason : String)
  /-- A path with a null character. -/
  | nullInPath
  /-- A path that starts in the home directory of somebody unknown. -/
  | unknownUser
  /-- A chain of candidates without a free name. -/
  | chainExhausted
  /-- A file system's refusal. -/
  | file (e : FileError)
  deriving DecidableEq, Repr

/-- What a fault is about. -/
def Fault.account : Fault → String
  | notText => "a text was expected"
  | notIterable => "a value that can be gone through was expected"
  | notMapping => "a mapping was expected"
  | notKey => "a list or a mapping cannot be a key"
  | badNumeral => "digits that make no number"
  | endlessComposition => "a composition contains itself"
  | endlessSearch => "a word is split without end"
  | tooDeep => "values are nested too deep"
  | tooDeepToShow => "values are nested too deep to be shown"
  | codePointOverflow => "an escape stands for no code point"
  | delayOverflow => "a waiting time is too large"
  | invalidAddress => "an address cannot be read"
  | noHost => "an address has no host"
  | unencodable => "a text has no bytes in its encoding"
  | undecodable => "a file is no UTF-8 text"
  | noByteOrder => "a text has no mark of its byte order"
  | badCompression reason => reason
  | tooManyRedirects reason => reason
  | nullInPath => "a path has a null character"
  | unknownUser => "a home directory is not known"
  | chainExhausted => "candidate chain exhausted without a free name"
  | file e => e.text

/-- Why a request came to nothing, if that is the fault. -/
def Fault.ofRequest? : Fault → Option String
  | badCompression reason => some reason
  | tooManyRedirects reason => some reason
  | _ => none

/-- The fault of a text that goes beyond a limit of its reader. -/
def Fault.ofLimit : Json.Limit → Fault
  | .digits => badNumeral
  | .depth => tooDeep

/-- The fault behind a refused YAML text, unless the text has no reading at all. -/
def Fault.ofRefusal? : Yaml.Refusal → Option Fault
  | .malformed => none
  | .badScalar => some badNumeral
  | .codePointOverflow => some codePointOverflow
  | .tooDeep => some tooDeep

end ApiCommands
