import MbedBlocks.Board.Profile
import MbedBlocks.Options

/-!
# The built-in board

The profile of the mbed NUCLEO-F103RB.
-/

namespace MbedBlocks.Board.Nucleo

def digitalPins : List String :=
  ["PA_0", "PA_1", "PA_10", "PA_11", "PA_12", "PA_13", "PA_14", "PA_15", "PA_2", "PA_3", "PA_4",
    "PA_5", "PA_6", "PA_7", "PA_8", "PA_9", "PB_0", "PB_1", "PB_10", "PB_11", "PB_12", "PB_13",
    "PB_14", "PB_15", "PB_2", "PB_3", "PB_4", "PB_5", "PB_6", "PB_7", "PB_8", "PB_9", "PC_0",
    "PC_1", "PC_10", "PC_11", "PC_12", "PC_13", "PC_14", "PC_15", "PC_2", "PC_3", "PC_4", "PC_5",
    "PC_6", "PC_7", "PC_8", "PC_9", "PD_2", "PF_0", "PF_1"]

def analogPins : List String :=
  ["PA_0", "PA_1", "PA_2", "PA_3", "PA_4", "PA_5", "PA_6", "PA_7", "PB_0", "PB_1", "PC_0", "PC_1",
    "PC_2", "PC_3", "PC_4", "PC_5"]

/-- Timers are not told apart. -/
def pwmPins : List String :=
  ["PA_1", "PA_10", "PA_11", "PA_15", "PA_2", "PA_3", "PA_6", "PA_7", "PA_8", "PA_9", "PB_0",
    "PB_1", "PB_10", "PB_11", "PB_13", "PB_14", "PB_15", "PB_3", "PB_4", "PB_5", "PC_4", "PC_6",
    "PC_7", "PC_8", "PC_9"]

def serialSpeed : List String :=
  ["9600", "300", "600", "1200", "2400", "4800", "14400", "19200", "28800", "31250", "38400",
    "57600", "115200"]

def serialUnits : List (String × String) :=
  [("PC_10", "Serial_3"), ("PB_7", "Serial_1"), ("PC_11", "Serial_3"), ("PB_6", "Serial_1"),
    ("PA_9", "Serial_1"), ("PB_10", "Serial_3"), ("PA_10", "Serial_1"), ("PA_2", "Serial_2"),
    ("PA_3", "Serial_2"), ("PB_11", "Serial_3")]

def i2cUnits : List (String × String) :=
  [("PB_6", "I2C_1"), ("PB_7", "I2C_1"), ("PB_8", "I2C_1"), ("PB_9", "I2C_1"), ("PB_10", "I2C_2"),
    ("PB_11", "I2C_2")]

def irqNumber : List String :=
  ["WWDG_IRQn", "PVD_IRQn", "TAMPER_IRQn", "RTC_IRQn", "FLASH_IRQn", "RCC_IRQn", "EXTI0_IRQn",
    "EXTI1_IRQn", "EXTI2_IRQn", "EXTI3_IRQn", "EXTI4_IRQn", "DMA1_Channel1_IRQn",
    "DMA1_Channel2_IRQn", "DMA1_Channel3_IRQn", "DMA1_Channel4_IRQn", "DMA1_Channel5_IRQn",
    "DMA1_Channel6_IRQn", "DMA1_Channel7_IRQn", "ADC1_2_IRQn", "USB_HP_CAN1_TX_IRQn",
    "USB_LP_CAN1_RX0_IRQn", "CAN1_RX1_IRQn", "CAN1_SCE_IRQn", "EXTI9_5_IRQn", "TIM1_BRK_IRQn",
    "TIM1_UP_IRQn", "TIM1_TRG_COM_IRQn", "TIM1_CC_IRQn", "TIM2_IRQn", "TIM3_IRQn", "TIM4_IRQn",
    "I2C1_EV_IRQn", "I2C1_ER_IRQn", "I2C2_EV_IRQn", "I2C2_ER_IRQn", "SPI1_IRQn", "SPI2_IRQn",
    "USART1_IRQn", "USART2_IRQn", "USART3_IRQn", "EXTI15_10_IRQn", "RTC_Alarm_IRQn",
    "USBWakeUp_IRQn"]

/-- Entries that show the value they store. -/
def plain (values : List String) : List Choice := values.map fun v => { label := v, value := v }

def profile : Board where
  id := defaultBoard
  name := "NUCLEO F103RB"
  description := "mbed NUCLEO standard compatible board"
  digitalPins := plain digitalPins
  analogPins := plain analogPins
  pwmPins := plain pwmPins
  serialPinsRx := plain ["PA_10", "PA_3", "PB_11", "PB_7", "PC_11"]
  serialPinsTx := plain ["PB_6", "PC_10", "PA_9", "PB_10", "PA_2"]
  serialPins := plain ["Serial_1", "Serial_2", "Serial_3"]
  serialSpeed := plain serialSpeed
  serialMapper := Dict.ofList serialUnits
  spi := plain ["SPI2", "SPI1"]
  spi1Choice := plain ["PA_5,PA_6,PA_7", "PB_3,PB_4,PB_5"]
  spi1Alternative := some { mosi := "PB_5", miso := "PB_4", sck := "PB_3" }
  spiPins := Dict.ofList
    [("SPI1", { mosi := "PA_7", miso := "PA_6", sck := "PA_5" }),
     ("SPI2", { mosi := "PB_15", miso := "PB_14", sck := "PB_13" })]
  i2cPinsSda := plain ["PB_9", "PB_11", "PB_7"]
  i2cPinsScl := plain ["PB_8", "PB_10", "PB_6"]
  i2cPins := plain ["I2C_1", "I2C_2"]
  i2cSpeed := [{ label := "100kHz", value := "100000L" }, { label := "400kHz", value := "400000L" }]
  i2cMapper := Dict.ofList i2cUnits
  builtinLed := [{ label := "LED_1", value := "PA_5" }]
  irqNumber := plain irqNumber

end MbedBlocks.Board.Nucleo

namespace MbedBlocks

/-- The boards known from the start. -/
def Boards.builtin : Boards := ({} : Boards).register Board.Nucleo.profile

end MbedBlocks
