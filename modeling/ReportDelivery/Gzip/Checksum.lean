import ReportDelivery.Text.Basic

/-! The cyclic redundancy check that gzip files carry. -/
namespace ReportDelivery.Gzip

/-- One step of the division by the reversed polynomial. -/
def checksumBit (c : UInt32) : UInt32 :=
  if c &&& 1 = 0 then c >>> 1 else (c >>> 1) ^^^ 0xEDB88320

def checksumByte (c : UInt32) (byte : UInt8) : UInt32 :=
  (List.replicate 8 ()).foldl (fun c _ => checksumBit c) (c ^^^ byte.toUInt32)

def checksum (bytes : Bytes) : UInt32 :=
  bytes.foldl checksumByte 0xFFFFFFFF ^^^ 0xFFFFFFFF

end ReportDelivery.Gzip
