/-
# Names and sizes of platform resources

How a disk in a zone is referred to (`zonal_disk_uri`), what the last segment of such a reference is
(`resource_name`), how many whole gibibytes hold a number of bytes (`bytes_to_gib_ceil`), and the short
identifier that ends the names of everything an import creates (`generate_execution_id`).
-/

namespace ImageImport.Resource

/-- The reference of a disk in a zone. -/
def zonalDiskUri (zone disk : String) : String := "zones/" ++ zone ++ "/disks/" ++ disk

/-- What stands after the last slash; all of it when there is none. -/
def name (uri : String) : String :=
  String.ofList (uri.toList.reverse.takeWhile (· != '/')).reverse

/-- Bytes in a gibibyte. -/
def bytesPerGib : Nat := Nat.pow 2 30

/-- The fewest whole gibibytes that hold `bytes`. -/
def gibCeil (bytes : UInt64) : Int64 :=
  Int64.ofNat ((bytes.toNat + (bytesPerGib - 1)) / bytesPerGib)

/-- A hexadecimal digit, in lower case. -/
def hexDigit (n : Nat) : Char :=
  if n % 16 < 10 then Char.ofNat ('0'.toNat + n % 16) else Char.ofNat ('a'.toNat + (n % 16 - 10))

/-- **The identifier of one execution**: eight lowercase hexadecimal digits of a random word. -/
def executionId (word : UInt32) : String :=
  String.ofList ((List.range 8).map fun i => hexDigit (word.toNat / Nat.pow 16 (7 - i)))

end ImageImport.Resource
