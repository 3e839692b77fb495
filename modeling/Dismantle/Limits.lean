/-! How deep values may lie inside one another. Whatever follows data of any depth does so on a stack
that ends somewhere, and ends with a fault there. -/
namespace Dismantle

/-- How many values may lie inside one another when a record is written, when it is copied, when a
document is read, when one is written, and when structured data is put on a line. -/
class Limits where
  saving : Nat := 255
  copying : Nat := 490
  reading : Nat := 490
  writing : Nat := 328
  encoding : Nat := 980

instance Limits.usual : Limits := {}

end Dismantle
