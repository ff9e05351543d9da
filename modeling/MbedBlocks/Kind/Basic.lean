/-!
# Kinds of blocks

One kind for each script: the language itself, what works on the pins and clocks of the board, and
the modules that hang on it.
-/

namespace MbedBlocks

inductive LanguageKind where
  /-- Holds the setup and loop chains. -/
  | frame
  | number
  | text
  | boolean
  | arithmetic
  | compare
  | operation
  | negate
  | branch
  | repetition
deriving DecidableEq, Repr

inductive PinKind where
  | digitalWrite
  | digitalRead
  | builtinLed
  | analogRead
  | highLow
  | pwm
  | pulse
  | pulseTimeout
  | interrupt
  | interruptPriority
  | tone
  | silence
deriving DecidableEq, Repr

inductive SerialKind where
  | setup
  | print
  | getChar
  | attach
  | content
  | readerSetup
  | waitCard
  | readUser
  | readPassword
deriving DecidableEq, Repr

inductive MotorKind where
  | servoWrite
  | servoRead
  | stepperSetup
  | stepperRotate
  | stepperWait
deriving DecidableEq, Repr

inductive TimeKind where
  | delay
  | delayMicros
  | millis
  | micros
  | halt
  | ticker
deriving DecidableEq, Repr

inductive SpiKind where
  | setup
  | transfer
  | transferReturn
deriving DecidableEq, Repr

/-- The nRF24L01 radio. -/
inductive RadioKind where
  | setup
  | irq
  | check
  | readable
  | checksum
  | writeLength
  | connect
deriving DecidableEq, Repr

/-- The W5500 network interface with its message broker. -/
inductive NetworkKind where
  | setup
  | yield
  | publish
  | command
deriving DecidableEq, Repr

/-- The LD3320 voice recognition module. -/
inductive VoiceKind where
  | setup
  | start
  | add
  | read
deriving DecidableEq, Repr

/-- Light, pressure, temperature, humidity, motion and level sensors. -/
inductive SensorKind where
  | bh1750Setup
  | bh1750Read
  | bmp180Setup
  | bmp180Temperature
  | bmp180Pressure
  | dht11Setup
  | dht11Temperature
  | dht11Humidity
  | dht11Readable
  | ds18b20Setup
  | ds18b20Temperature
  | ds18b20Readable
  | sr501Setup
  | sr501Output
  | sr501Readable
  | sr501Reset
  | analogSetup
  | analogOutput
  | analogReadable
  | analogReset
deriving DecidableEq, Repr

/-- The JY901 motion sensor on a serial line. -/
inductive ImuKind where
  | setup
  | receive
  | acceleration
  | gyration
  | magnetism
  | attitude
deriving DecidableEq, Repr

/-- The SD card and files on it. -/
inductive FileKind where
  | card
  | openFile
  | print
  | scan
  | closeFile
deriving DecidableEq, Repr

/-- The G-code interpreter and the motions it calls for. -/
inductive GcodeKind where
  | start
  | parse
  | home
  | move
  | setPosition
deriving DecidableEq, Repr

inductive VariableKind where
  | declare
  | declareArray
  | get
  | set
  | cast
deriving DecidableEq, Repr

inductive Kind where
  | language (k : LanguageKind)
  | pin (k : PinKind)
  | serial (k : SerialKind)
  | motor (k : MotorKind)
  | time (k : TimeKind)
  | spi (k : SpiKind)
  | radio (k : RadioKind)
  | network (k : NetworkKind)
  | voice (k : VoiceKind)
  | sensor (k : SensorKind)
  | imu (k : ImuKind)
  | var (k : VariableKind)
  | file (k : FileKind)
  | gcode (k : GcodeKind)
deriving DecidableEq, Repr

end MbedBlocks
