/-!
# Errors of storage

Each way in which reading, writing, removing or moving a file can fail, with its kind and text.
-/

namespace IniSettings

inductive IoError.Kind where
  | notFound
  | permissionDenied
  | alreadyExists
  | invalidInput
  | invalidFilename
  | isADirectory
  | notADirectory
  | directoryNotEmpty
  | resourceBusy
  | writeZero
  | other
deriving DecidableEq, Repr

inductive IoError where
  /-- A path holds a character that ends names. -/
  | nulInPath
  | noEntry
  | busy
  | entryExists
  | notDirectory
  | isDirectory
  | invalidArgument
  | nameTooLong
  | notEmpty
  /-- A writer took none of the bytes that it was given. -/
  | writeZero
  | absent
  | gone
  | createDenied
  | readDenied
  | renameDenied
  | removeDenied
  | writeRefused
  | flushFailed
  | notOpen
  | unnamed (message : String)
deriving DecidableEq, Repr

namespace IoError

def kind : IoError → Kind
  | .nulInPath => .invalidInput
  | .noEntry => .notFound
  | .busy => .resourceBusy
  | .entryExists => .alreadyExists
  | .notDirectory => .notADirectory
  | .isDirectory => .isADirectory
  | .invalidArgument => .invalidInput
  | .nameTooLong => .invalidFilename
  | .notEmpty => .directoryNotEmpty
  | .writeZero => .writeZero
  | .absent => .notFound
  | .gone => .notFound
  | .createDenied => .permissionDenied
  | .readDenied => .permissionDenied
  | .renameDenied => .permissionDenied
  | .removeDenied => .permissionDenied
  | .writeRefused => .other
  | .flushFailed => .other
  | .notOpen => .other
  | .unnamed _ => .other

def message : IoError → String
  | .nulInPath => "file name contained an unexpected NUL byte"
  | .noEntry => "No such file or directory (os error 2)"
  | .busy => "Device or resource busy (os error 16)"
  | .entryExists => "File exists (os error 17)"
  | .notDirectory => "Not a directory (os error 20)"
  | .isDirectory => "Is a directory (os error 21)"
  | .invalidArgument => "Invalid argument (os error 22)"
  | .nameTooLong => "File name too long (os error 36)"
  | .notEmpty => "Directory not empty (os error 39)"
  | .writeZero => "failed to write whole buffer"
  | .absent => "no such file"
  | .gone => "gone"
  | .createDenied => "create denied"
  | .readDenied => "read denied"
  | .renameDenied => "rename denied"
  | .removeDenied => "remove denied"
  | .writeRefused => "injected write failure"
  | .flushFailed => "flush failed"
  | .notOpen => "no file is open"
  | .unnamed message => message

end IoError

end IniSettings
