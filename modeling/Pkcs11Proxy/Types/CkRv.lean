import Mathlib.Data.List.Basic

namespace Pkcs11Proxy.Types

-- CK_RV values: a newtype over the wire word, with the constants the models name.
structure CkRv where
  value : UInt64
deriving DecidableEq, Repr

namespace CkRv

def ok : CkRv := ⟨0x0⟩
def hostMemory : CkRv := ⟨0x2⟩
def slotIdInvalid : CkRv := ⟨0x3⟩
def generalError : CkRv := ⟨0x5⟩
def functionFailed : CkRv := ⟨0x6⟩
def argumentsBad : CkRv := ⟨0x7⟩
def attributeSensitive : CkRv := ⟨0x11⟩
def attributeTypeInvalid : CkRv := ⟨0x12⟩
def attributeValueInvalid : CkRv := ⟨0x13⟩
def deviceError : CkRv := ⟨0x30⟩
def functionNotSupported : CkRv := ⟨0x54⟩
def keyHandleInvalid : CkRv := ⟨0x60⟩
def keyFunctionNotPermitted : CkRv := ⟨0x68⟩
def mechanismInvalid : CkRv := ⟨0x70⟩
def mechanismParamInvalid : CkRv := ⟨0x71⟩
def objectHandleInvalid : CkRv := ⟨0x82⟩
def pinIncorrect : CkRv := ⟨0xA0⟩
def pinLocked : CkRv := ⟨0xA4⟩
def sessionClosed : CkRv := ⟨0xB0⟩
def sessionHandleInvalid : CkRv := ⟨0xB3⟩
def userAlreadyLoggedIn : CkRv := ⟨0x100⟩
def userNotLoggedIn : CkRv := ⟨0x101⟩
def userTypeInvalid : CkRv := ⟨0x103⟩
def userAnotherAlreadyLoggedIn : CkRv := ⟨0x104⟩
def bufferTooSmall : CkRv := ⟨0x150⟩
def cryptokiNotInitialized : CkRv := ⟨0x190⟩
def cryptokiAlreadyInitialized : CkRv := ⟨0x191⟩

end CkRv

end Pkcs11Proxy.Types
