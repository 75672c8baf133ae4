/-!
# Faults of an archive

Why bytes cannot be read as an archive, why one of its entries cannot be read, and why entries
cannot be written as one.
-/

namespace InteractiveBook.Zip

/-- What is wrong with an archive or one of its entries. -/
inductive Fault where
  /-- There is no usable end record. -/
  | noEndRecord
  /-- The end record does not lead to a directory. -/
  | badEndRecord
  /-- A header of the directory is damaged or points outside the data. -/
  | badDirectory
  /-- There is no local header where the directory says. -/
  | badLocalHeader
  /-- An extra field of a header breaks its format. -/
  | badExtraField
  /-- The entry is encrypted. -/
  | encrypted
  /-- The entry is compressed with a method that is not supported. -/
  | unsupportedMethod
  /-- The compressed data of the entry breaks its format. -/
  | corruptData
  /-- The data of the entry does not have its checksum. -/
  | badChecksum
  /-- There is no entry of the given name. -/
  | noEntry
  /-- A name is too long to be written. -/
  | nameTooLong
  /-- The compression level is not supported. -/
  | badLevel
  /-- Two entries would be written with one name. -/
  | duplicateName
  deriving DecidableEq, Repr

/-- The wording of a fault. -/
def Fault.message : Fault → String
  | noEndRecord => "no end record found"
  | badEndRecord => "the end record does not lead to a directory"
  | badDirectory => "the directory is damaged"
  | badLocalHeader => "a local header is damaged"
  | badExtraField => "an extra field is damaged"
  | encrypted => "the entry is encrypted"
  | unsupportedMethod => "the compression method is not supported"
  | corruptData => "the compressed data is damaged"
  | badChecksum => "the data does not match its checksum"
  | noEntry => "no such entry"
  | nameTooLong => "an entry name is too long"
  | badLevel => "the compression level is not supported"
  | duplicateName => "an entry name comes twice"

end InteractiveBook.Zip
