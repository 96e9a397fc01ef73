import Fffb.Hid.Report

/-
A human-interface device as the driver sees it: the operating system's handle
and the properties read from it once, when the device is listed.
-/

namespace Fffb

structure HidDevice where
  /-- The operating system's handle; `none` is the null pointer. -/
  hidDevice : Option Nat
  vendorId : U32
  productId : U32
  usagePage : U32
  usage : U32
  deriving DecidableEq, Repr

namespace HidDevice

def null : HidDevice :=
  { hidDevice := none
    vendorId := 0
    productId := 0
    usagePage := 0
    usage := 0 }

def makeDeviceId (productId vendorId : U32) : U32 :=
  ((productId &&& 0xFFFF) <<< 16) ||| (vendorId &&& 0xFFFF)

/-- Both constructors fill this field from the product and vendor numbers. -/
def deviceId (device : HidDevice) : U32 :=
  makeDeviceId device.productId device.vendorId

def isPresent (device : HidDevice) : Bool := device.hidDevice.isSome

def g29 : HidDevice :=
  { hidDevice := some 1
    vendorId := 0x046d
    productId := 0xc24f
    usagePage := 0x01
    usage := 0x04 }

end HidDevice

end Fffb
