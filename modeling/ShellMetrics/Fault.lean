import ShellMetrics.Problem
import ShellMetrics.Text.Quoted

/-!
# Faults

A fault is a cause of failure.  Its message and the word for its kind are derived from the cause,
here and nowhere else.
-/

namespace ShellMetrics

/-- What a file system can refuse. -/
inductive SystemError where
  | missing
  | denied
  | notDirectory
  | isDirectory
  | nameTooLong
  | tooManyLinks
  deriving DecidableEq

namespace SystemError

def number : SystemError → Nat
  | missing => 2
  | denied => 13
  | notDirectory => 20
  | isDirectory => 21
  | nameTooLong => 36
  | tooManyLinks => 40

def text : SystemError → Text
  | missing => "No such file or directory"
  | denied => "Permission denied"
  | notDirectory => "Not a directory"
  | isDirectory => "Is a directory"
  | nameTooLong => "File name too long"
  | tooManyLinks => "Too many levels of symbolic links"

/-- The error with its number and the path it is about. -/
def describe (error : SystemError) (path : Text) : Text :=
  Text.lit "[Errno " ++ Text.ofNat error.number ++ Text.lit "] " ++ error.text ++ Text.lit ": " ++
    Text.quote path

def label : SystemError → Text
  | missing => "FileNotFoundError"
  | denied => "PermissionError"
  | notDirectory => "NotADirectoryError"
  | isDirectory => "IsADirectoryError"
  | nameTooLong | tooManyLinks => "OSError"

end SystemError

/-- What a codec complains about, with the word for the kind of complaint. -/
structure CodecError where
  label : Text
  message : Text

/-- A cause of failure. -/
inductive Fault where
  /-- A setting that does not exist. -/
  | unknownSetting (key : Text)
  /-- A setting with a name that is taken. -/
  | reservedSetting
  /-- A setting whose name is not a text. -/
  | keyNotText
  | noExtensions
  | extensionWithoutDot (extension : Text)
  /-- A value of a type that has no elements. -/
  | notIterable (type : Text)
  /-- A value of a type other than text where the start of a text is asked for. -/
  | noStart (type : Text)
  /-- A value of a type that is not compared with whole numbers. -/
  | notOrdered (relation type : Text)
  | sizeNotPositive
  | tooFewWorkers
  | unknownSortKey
  | unknownVerbosity
  | notAFlag (text : Text)
  | notAnInteger (text : Text)
  | notANumber (text : Text)
  /-- A numeral with more digits than are converted. -/
  | tooManyDigits (count : Nat)
  /-- A whole number that would need more digits than are converted. -/
  | numberTooLong
  | infiniteSize
  | undefinedSize
  /-- An element of a list of settings that is not made of two parts. -/
  | pairLength (index length : Nat)
  | notAPair (index : Nat)
  | unhashable (type : Text)
  /-- A text that does not follow the rules of TOML. -/
  | malformedToml
  | system (error : SystemError) (path : Text)
  /-- A path with a null character. -/
  | nullInPath
  /-- An encoding name with a null character. -/
  | nullInEncoding
  | encodingNotText (type : Text)
  | unknownEncoding (name : Text)
  | notTextEncoding (name : Text)
  | missingByteOrderMark
  | codec (error : CodecError)
  /-- A pattern that is not a text, by the short word for its type. -/
  | patternNotText (type : Text)
  | unknownFormat (name : Text)
  | unknownLogVerbosity
  /-- A closing tag without an open tag of its name. -/
  | unmatchedTag (body : Text) (position : Nat)
  /-- A closing tag without a name where no tag is open. -/
  | nothingToClose (position : Nat)
  | reported (problem : Problem)

namespace Fault

/-- The most digits of a decimal numeral that are converted. -/
def digitLimit : Nat := 4300

/-- The message of a fault.  A malformed TOML text is not said more about. -/
def message : Fault → Text
  | unknownSetting key =>
    Text.lit "AnalysisConfig.__init__() got an unexpected keyword argument '" ++ key ++ ['\'']
  | reservedSetting => "AnalysisConfig.__init__() got multiple values for argument 'self'"
  | keyNotText => "keywords must be strings"
  | noExtensions => "extensions must not be empty"
  | extensionWithoutDot extension =>
    Text.lit "extension " ++ Text.quote extension ++ Text.lit " must start with '.'"
  | notIterable type => '\'' :: type ++ Text.lit "' object is not iterable"
  | noStart type => '\'' :: type ++ Text.lit "' object has no attribute 'startswith'"
  | notOrdered relation type =>
    '\'' :: relation ++ Text.lit "' not supported between instances of '" ++ type ++
      Text.lit "' and 'int'"
  | sizeNotPositive => "max_file_size_mb must be positive"
  | tooFewWorkers => "workers must be at least 1"
  | unknownSortKey => "sort_by must be one of: name, ccn, code"
  | unknownVerbosity => "verbosity must be quiet, normal or verbose"
  | notAFlag text =>
    Text.lit "expected one of true/1/yes/on/false/0/no/off, got '" ++ text ++ ['\'']
  | notAnInteger text =>
    Text.lit "invalid literal for int() with base 10: " ++ (Text.quote text).take 200
  | notANumber text => Text.lit "could not convert string to float: " ++ Text.quote text
  | tooManyDigits count =>
    Text.lit "Exceeds the limit (" ++ Text.ofNat digitLimit ++
      Text.lit " digits) for integer string conversion: value has " ++ Text.ofNat count ++
      Text.lit " digits; use sys.set_int_max_str_digits() to increase the limit"
  | numberTooLong =>
    Text.lit "Exceeds the limit (" ++ Text.ofNat digitLimit ++
      Text.lit " digits) for integer string conversion; " ++
      Text.lit "use sys.set_int_max_str_digits() to increase the limit"
  | infiniteSize => "cannot convert float infinity to integer"
  | undefinedSize => "cannot convert float NaN to integer"
  | pairLength index length =>
    Text.lit "dictionary update sequence element #" ++ Text.ofNat index ++
      Text.lit " has length " ++ Text.ofNat length ++ Text.lit "; 2 is required"
  | notAPair index =>
    Text.lit "cannot convert dictionary update sequence element #" ++ Text.ofNat index ++
      Text.lit " to a sequence"
  | unhashable type => Text.lit "unhashable type: '" ++ type ++ ['\'']
  | malformedToml => []
  | system error path => error.describe path
  | nullInPath => "embedded null byte"
  | nullInEncoding => "embedded null character"
  | encodingNotText type => Text.lit "open() argument 'encoding' must be str or None, not " ++ type
  | unknownEncoding name => Text.lit "unknown encoding: " ++ name
  | notTextEncoding name =>
    '\'' :: name ++
      Text.lit "' is not a text encoding; use codecs.open() to handle arbitrary codecs"
  | missingByteOrderMark => "UTF-16 stream does not start with BOM"
  | codec error => error.message
  | patternNotText type => Text.lit "expected str, bytes or os.PathLike object, not " ++ type
  | unknownFormat name =>
    Text.lit "Unknown formatter: " ++ Text.quote name ++
      Text.lit ". Choose from: csv, json, rich, text"
  | unknownLogVerbosity => "verbosity must be one of: quiet, normal, verbose"
  | unmatchedTag body position =>
    Text.lit "closing tag '[" ++ body ++ Text.lit "]' at position " ++ Text.ofNat position ++
      Text.lit " doesn't match any open tag"
  | nothingToClose position =>
    Text.lit "closing tag '[/]' at position " ++ Text.ofNat position ++
      Text.lit " has nothing to close"
  | reported problem => problem.describe

def label : Fault → Text
  | unknownSetting _ | reservedSetting | keyNotText | notIterable _ | notOrdered _ _ | notAPair _
  | unhashable _ | encodingNotText _ | patternNotText _ => "TypeError"
  | noStart _ => "AttributeError"
  | infiniteSize => "OverflowError"
  | missingByteOrderMark => "UnicodeError"
  | codec error => error.label
  | unknownEncoding _ | notTextEncoding _ => "LookupError"
  | noExtensions | extensionWithoutDot _ | sizeNotPositive | tooFewWorkers | unknownSortKey
  | unknownVerbosity | notAFlag _ | notAnInteger _ | notANumber _ | tooManyDigits _
  | numberTooLong | undefinedSize | pairLength _ _ | malformedToml | nullInPath | nullInEncoding
  | unknownFormat _ | unknownLogVerbosity => "ValueError"
  | unmatchedTag _ _ | nothingToClose _ => "MarkupError"
  | system error _ => error.label
  | reported problem => problem.kind.label

end Fault

end ShellMetrics
