/-! # Register addresses

The indices of the shared registers, as `define.h` gives them; a 32-bit quantity
takes the two words from the index of its high word. Only the registers that the
modelled functions read or write are listed. The header gives one address to two
names in a few places (`testCool2_3Mode` and `testCool2_4Mode`, for example).
-/

namespace Jincubator.Reg

abbrev diInit : Nat := 0
abbrev doInit : Nat := 24
abbrev detectDamperFullyOpen : Nat := 2
abbrev detectDamperFullyClose : Nat := 3
abbrev detectAuxHighTemp : Nat := 5
abbrev detectFanStop : Nat := 6
abbrev detectDoorSwitch : Nat := 7
abbrev detectFan : Nat := 17
abbrev detectFlipEgg : Nat := 19
abbrev controlRunLights : Nat := 24
abbrev controlWarnLight : Nat := 25
abbrev controlMainHeat : Nat := 26
abbrev controlElectricBell : Nat := 32
abbrev controlAuxHeat : Nat := 33
abbrev controlFan : Nat := 35
abbrev controlCool2Init : Nat := 35
abbrev controlCool2_1 : Nat := 36
abbrev controlCool2_2 : Nat := 37
abbrev controlCool2_3 : Nat := 38
abbrev controlCool2_4 : Nat := 39
abbrev controlColdHotWater : Nat := 40
abbrev controlBlower : Nat := 41
abbrev controlDamperOpen : Nat := 42
abbrev controlDamperClose : Nat := 43
abbrev controlCool : Nat := 44
abbrev controlSpray : Nat := 45
abbrev filpEggOn : Nat := 46
abbrev filpEggOff : Nat := 47
abbrev ptAi1 : Nat := 48
abbrev nanopiGpioPg11 : Nat := 54
abbrev damperTimeLenAllClose : Nat := 61
abbrev damperTimeLenAllOpen : Nat := 62
abbrev statusDamperCheck : Nat := 65
abbrev alarmPt100Total : Nat := 75
abbrev alarmModule : Nat := 77
abbrev eggFlippInginterval : Nat := 78
abbrev damperMaxLen : Nat := 80
abbrev damperMinLen : Nat := 81
abbrev sensorMutationStatus : Nat := 83
abbrev refluxTemperature : Nat := 84
abbrev runModeStatus : Nat := 85
abbrev damperTimeOpen : Nat := 87
abbrev damperTimeClose : Nat := 88
abbrev pCo2Status : Nat := 89
abbrev pPtWait : Nat := 90
abbrev pPtPic : Nat := 91
abbrev pEggTime : Nat := 92
abbrev pFanTime : Nat := 93
abbrev pEditCo2Value : Nat := 94

abbrev pAoTpMain : Nat := 100
abbrev pAoHm : Nat := 101
abbrev pAoCo : Nat := 102
abbrev pAoAd : Nat := 103
abbrev pAoTpRf1 : Nat := 104
abbrev pAoTpRf2 : Nat := 105
abbrev pAoTpRf3 : Nat := 106
abbrev pAoTpRf4 : Nat := 107
abbrev pEditTpMain : Nat := 108
abbrev pEditCo : Nat := 110
abbrev pEditAd : Nat := 111
abbrev pRtempAh : Nat := 116
abbrev pRtempAl : Nat := 117
abbrev pRtempAlo : Nat := 118
abbrev pRtempZqc : Nat := 129
abbrev pRtempZqs : Nat := 130
abbrev pRtempGzs : Nat := 131
abbrev pRtempHys : Nat := 132
abbrev pTempAh : Nat := 133
abbrev pTempAl : Nat := 134
abbrev pTempAlo : Nat := 135
abbrev pTempTo : Nat := 138
abbrev pTempP : Nat := 139
abbrev pTempI : Nat := 140
abbrev pTempD : Nat := 141
abbrev pTempOhi : Nat := 142
abbrev pTempOlo : Nat := 143
abbrev pHumAh : Nat := 145
abbrev pHumAl : Nat := 146
abbrev pHumAlo : Nat := 147
abbrev pHumTo : Nat := 150
abbrev pHumP : Nat := 151
abbrev pHumI : Nat := 152
abbrev pHumD : Nat := 153
abbrev pHumOhi : Nat := 154
abbrev pHumOlo : Nat := 155
abbrev pHumSpr : Nat := 157
abbrev pHumSpo : Nat := 158
abbrev pHumDbo : Nat := 159
abbrev pHys : Nat := 160
abbrev pAuh : Nat := 161
abbrev pOpe : Nat := 162
abbrev pClo : Nat := 163
abbrev pCol : Nat := 164
abbrev pBlo : Nat := 165
abbrev pHhi : Nat := 166
abbrev pHlo : Nat := 167
abbrev pTau : Nat := 168
abbrev pTop : Nat := 169
abbrev pTcl : Nat := 170
abbrev pTco : Nat := 171
abbrev pTbl : Nat := 172
abbrev pHh0 : Nat := 173
abbrev pHh1 : Nat := 174
abbrev pHh2 : Nat := 175
abbrev pHh3 : Nat := 176
abbrev pHh4 : Nat := 177
abbrev pHh5 : Nat := 178
abbrev pHh6 : Nat := 179
abbrev pHh7 : Nat := 180
abbrev pHh8 : Nat := 181
abbrev pHh9 : Nat := 182
abbrev pHh10 : Nat := 183
abbrev pHh11 : Nat := 184
abbrev pCo2Hys : Nat := 185
abbrev pCo2Ah : Nat := 186
abbrev pCo2Zqc : Nat := 187
abbrev pCo2Gzs : Nat := 188
abbrev pEggFlippingTime : Nat := 190
abbrev pEggFlippingDirection : Nat := 191
abbrev pEggFlippingExecutionStatus : Nat := 192
abbrev eggFlippingTriggerStatus : Nat := 193
abbrev eggFlippingAccumulationState : Nat := 194

abbrev rAiTpMain : Nat := 200
abbrev rAiHm : Nat := 201
abbrev rAiCo : Nat := 202
abbrev rAiAd : Nat := 203
abbrev rAiTpRf1 : Nat := 204
abbrev rAiTpRf2 : Nat := 205
abbrev rAiTpRf3 : Nat := 206
abbrev rAiTpRf4 : Nat := 207
abbrev rAiTpEgg : Nat := 208
abbrev rInitAiTpMain : Nat := 210
abbrev rInitAiCo : Nat := 212
abbrev rInitAiAd : Nat := 213
abbrev rBtnTpMain : Nat := 220
abbrev rBtnDrOn : Nat := 222
abbrev rBtnDrOff : Nat := 223
abbrev sSyncMotorUpperLimitFreq : Nat := 238
abbrev sSyncMotorLowerLimitFreq : Nat := 239
abbrev sSyncMotorControlCmd : Nat := 240
abbrev sSyncMotorControlrunFreq : Nat := 241
abbrev rSyncMotorControlPara : Nat := 242
abbrev rSyncMotorControlFault : Nat := 243
abbrev rSyncMotorConnectStatus : Nat := 245
abbrev rSyncMotorCurrentFreq : Nat := 246
abbrev rSyncMotorMode : Nat := 247
abbrev rSyncHatchMode : Nat := 248
abbrev rSyncVersion : Nat := 249
abbrev systemInit : Nat := 250
abbrev rStartSend : Nat := 250
abbrev rStartRecv : Nat := 251
abbrev rStopSend : Nat := 252
abbrev rStopRecv : Nat := 253
abbrev rPreSend : Nat := 254
abbrev rPreRecv : Nat := 255
abbrev rPreStatus : Nat := 256
abbrev rCloseAlaSend : Nat := 257
abbrev rCloseAlaRecv : Nat := 258
abbrev rCloseAlaTime : Nat := 259
abbrev rInitSend : Nat := 260
abbrev rInitRecv : Nat := 261
abbrev rCheckSend : Nat := 262
abbrev rCheckRecv : Nat := 263
abbrev rInitTimeHigh : Nat := 264
abbrev rSystemTimeHigh : Nat := 266
abbrev sSystemTimeHigh : Nat := 268
abbrev rPreStartTimeHigh : Nat := 270
abbrev rPreStopTimeHigh : Nat := 272
abbrev rRunDay : Nat := 274
abbrev rRunMaxDay : Nat := 275
abbrev rRunSecondHigh : Nat := 276
abbrev rRunSecondStatus : Nat := 278
abbrev rRunSystemSecondStatus : Nat := 279
abbrev rRunSystemSecondHigh : Nat := 280
abbrev sRunSystemSecondHigh : Nat := 282
abbrev sSyncMotorBasics : Nat := 292
abbrev sSyncMotorStage : Nat := 293

abbrev pPt1Ao1 : Nat := 300
abbrev pPt1Ao2 : Nat := 301
abbrev pPt1Ao3 : Nat := 302
abbrev pPt1Ao4 : Nat := 303

abbrev pHh0Time : Nat := 400
abbrev alarmSuppressionTime : Nat := 415
abbrev highHumidityAlarmDelayStatus : Nat := 416
abbrev highHumidityAlarmDelayTime : Nat := 417
abbrev backupOperationMode : Nat := 420
abbrev calibrationRunTime : Nat := 421
abbrev backupPreheatingStartTimeHigh : Nat := 422
abbrev backupPreheatingShutdownTimeHigh : Nat := 424
abbrev backupPreStatus : Nat := 426
abbrev eggFlippingSignalRingingStatus : Nat := 430
abbrev noEggFlippingSignalRingingStatus : Nat := 431
abbrev eggFlippingSignalAlarmTime : Nat := 432
abbrev noEggFlippingSignalAlarmTime : Nat := 433
abbrev carbonDioxideWarningLight : Nat := 440
abbrev carbonDioxideOperatingTime : Nat := 441
abbrev carbonDioxideStopTime : Nat := 442
abbrev carbonDioxideInit : Nat := 443
abbrev carbonDioxideCalibrationStatus : Nat := 444
abbrev fanAlarmTime : Nat := 450
abbrev airDoorOpenRunningTime : Nat := 460
abbrev airDoorClosingRunningTime : Nat := 461
abbrev airDoorOpenRunningStatus : Nat := 462
abbrev airDoorClosingRunningStatus : Nat := 463

abbrev thereIsAnEggFlippingSignalAlarm : Nat := 501
abbrev sensor1AbnormalAlarm : Nat := 510
abbrev sensor2AbnormalAlarm : Nat := 511
abbrev sensor3AbnormalAlarm : Nat := 512
abbrev sensor4AbnormalAlarm : Nat := 513
abbrev sensor5AbnormalAlarm : Nat := 514
abbrev sensor6AbnormalAlarm : Nat := 515
abbrev sensorCo2Alarm : Nat := 516
abbrev testMainHeatMode : Nat := 520
abbrev testAuxHeatMode : Nat := 521
abbrev testDamperOpenMode : Nat := 522
abbrev testDamperCloseMode : Nat := 523
abbrev testSprayMode : Nat := 524
abbrev testFilpEggMode : Nat := 525
abbrev testCoolMode : Nat := 526
abbrev testCool2_1Mode : Nat := 527
abbrev testCool2_2Mode : Nat := 528
abbrev testCool2_3Mode : Nat := 529
abbrev testCool2_4Mode : Nat := 529
abbrev testBlowerMode : Nat := 530
abbrev testControlMode : Nat := 531
abbrev testBtnTime : Nat := 532
abbrev refluxTemp1DelayTime : Nat := 540
abbrev refluxTemp2DelayTime : Nat := 541
abbrev refluxTemp3DelayTime : Nat := 542
abbrev refluxTemp4DelayTime : Nat := 543
abbrev refluxTemp1WorkTime : Nat := 544
abbrev refluxTemp2WorkTime : Nat := 545
abbrev refluxTemp3WorkTime : Nat := 546
abbrev refluxTemp4WorkTime : Nat := 547
abbrev returnTemp1StopTime : Nat := 548
abbrev returnTemp2StopTime : Nat := 549
abbrev returnTemp3StopTime : Nat := 550
abbrev returnTemp4StopTime : Nat := 551
abbrev returnTemp1WorkCycle : Nat := 552
abbrev returnTemp2WorkCycle : Nat := 553
abbrev returnTemp3WorkCycle : Nat := 554
abbrev returnTemp4WorkCycle : Nat := 555
abbrev returnTemp1HotWaterOperatInit : Nat := 556
abbrev returnTemp2HotWaterOperatInit : Nat := 557
abbrev returnTemp3HotWaterOperatInit : Nat := 558
abbrev returnTemp4HotWaterOperatInit : Nat := 559
abbrev reflowTemp1ColdWaterOperatInit : Nat := 560
abbrev reflowTemp2ColdWaterOperatInit : Nat := 561
abbrev reflowTemp3ColdWaterOperatInit : Nat := 562
abbrev reflowTemp4ColdWaterOperatInit : Nat := 563
abbrev highTempAlarmValue : Nat := 570
abbrev lowTempAlarmValue : Nat := 571
abbrev highHumiAlarmValue : Nat := 572
abbrev lowHumiAlarmValue : Nat := 573
abbrev highTempAlarmValueForRefluxTemp1 : Nat := 574
abbrev lowTempAlarmValueForRefluxTemp1 : Nat := 575
abbrev highTempAlarmValueForRefluxTemp2 : Nat := 576
abbrev lowTempAlarmValueForRefluxTemp2 : Nat := 577
abbrev highTempAlarmValueForRefluxTemp3 : Nat := 578
abbrev lowTempAlarmValueForRefluxTemp3 : Nat := 579
abbrev highTempAlarmValueForRefluxTemp4 : Nat := 580
abbrev lowTempAlarmValueForRefluxTemp4 : Nat := 581
abbrev highTempAlarmStatus : Nat := 582
abbrev lowTempAlarmStatus : Nat := 583
abbrev highHumiAlarmStatus : Nat := 584
abbrev lowHumiAlarmStatus : Nat := 585
abbrev returnTempeHighTempAlarmStatus1 : Nat := 586
abbrev returnTempLowTempAlarmStatus1 : Nat := 587
abbrev returnTempeHighTempAlarmStatus2 : Nat := 588
abbrev returnTempLowTempAlarmStatus2 : Nat := 589
abbrev returnTempeHighTempAlarmStatus3 : Nat := 590
abbrev returnTempLowTempAlarmStatus3 : Nat := 591
abbrev returnTempeHighTempAlarmStatus4 : Nat := 592
abbrev returnTempLowTempAlarmStatus4 : Nat := 593
abbrev returnTempHighTempAlarmTime : Nat := 594
abbrev returnTempLowTempAlarmTime : Nat := 595
abbrev returnTempHighTempAlarmStatus : Nat := 596
abbrev returnTempLowTempAlarmStatus : Nat := 597
abbrev returnTempTotalTempAlarmStatus : Nat := 598

abbrev outStFanStatus : Nat := 600
abbrev outStTpMainStatus : Nat := 601
abbrev outStTpAidStatus : Nat := 602
abbrev outStHmStatus : Nat := 603
abbrev outStEggStatus : Nat := 604
abbrev outStAdOpenStatus : Nat := 605
abbrev outStAdCloseStatus : Nat := 606
abbrev outStWtClStatus : Nat := 607
abbrev outStTpRf1Status : Nat := 608
abbrev outStTpRf2Status : Nat := 609
abbrev outStTpRf3Status : Nat := 610
abbrev outStTpRf4Status : Nat := 611
abbrev outStTpHighAlarm : Nat := 620
abbrev outStTpLowAlarm : Nat := 621
abbrev outStHmHighAlarm : Nat := 622
abbrev outStHmLowAlarm : Nat := 623
abbrev outStFanAlarm : Nat := 624
abbrev outStRefTempAlarm : Nat := 625
abbrev outStSensorAbnormalAlarm : Nat := 626
abbrev outStEggAlarm : Nat := 627
abbrev outStCo2Alarm : Nat := 628
abbrev outStDoorSwitchAlarm : Nat := 630

abbrev filterPidTempArr : Nat := 700

abbrev filterPidHumiArr : Nat := 800

abbrev pidTempModeStatus : Nat := 900
abbrev pidTempSum : Nat := 902
abbrev pidTempValue : Nat := 904
abbrev pidTempOldFilterValue : Nat := 906
abbrev pidTempNewFilterValue : Nat := 908
abbrev pidTempMainHeater : Nat := 910
abbrev pidPeriodCountMainHeater : Nat := 912
abbrev pidOnCountMainHeater : Nat := 914
abbrev pidOnCountCool : Nat := 916
abbrev pidOnCountBlower : Nat := 918
abbrev pidOnCountDbOpen : Nat := 920
abbrev pidOnCountDbClose : Nat := 922
abbrev pidTempCool : Nat := 924
abbrev pidTempDbOpen : Nat := 928
abbrev pidTempDbClose : Nat := 930
abbrev pidHumiSum : Nat := 934
abbrev pidHumiValue : Nat := 936
abbrev pidHumiOldHumidification : Nat := 938
abbrev pidHumiNewHumidification : Nat := 940
abbrev pidPeriodCountHumi : Nat := 942
abbrev pidOnCountHumi : Nat := 944
abbrev pidAdValue : Nat := 945
abbrev pidAdOpenStatus : Nat := 946
abbrev controlDbOpenCalibrationStatus : Nat := 948
abbrev controlDbCliseCalibrationStatus : Nat := 949
abbrev controlDbCloseToOpenTimeStatus : Nat := 952
abbrev controlDbOpenToCloseTimeStatus : Nat := 953

abbrev pPreTpMain : Nat := 1001
abbrev pPreHm : Nat := 1101
abbrev pPreCo : Nat := 1201
abbrev pPreAd : Nat := 1301
abbrev pPreTpRf1 : Nat := 1401
abbrev pPreTpRf2 : Nat := 1501
abbrev pPreTpRf3 : Nat := 1601
abbrev pPreTpRf4 : Nat := 1701
abbrev pPreTpMainDay : Nat := 1000
abbrev pPreHmDay : Nat := 1100
abbrev pPreCoDay : Nat := 1200
abbrev pPreAdDay : Nat := 1300
abbrev pPreTpRf1Day : Nat := 1400
abbrev pPreTpRf2Day : Nat := 1500
abbrev pPreTpRf3Day : Nat := 1600
abbrev pPreTpRf4Day : Nat := 1700
abbrev pSetTpMainDay : Nat := 1002
abbrev pSetTpMainVal : Nat := 1003
abbrev pSetHmDay : Nat := 1102
abbrev pSetHmVal : Nat := 1103
abbrev pSetCoDay : Nat := 1202
abbrev pSetCoVal : Nat := 1203
abbrev pSetAdDay : Nat := 1302
abbrev pSetAdVal : Nat := 1303
abbrev pSetTpRf1Day : Nat := 1402
abbrev pSetTpRf1Val : Nat := 1403
abbrev pSetTpRf2Day : Nat := 1502
abbrev pSetTpRf2Val : Nat := 1503
abbrev pSetTpRf3Day : Nat := 1602
abbrev pSetTpRf3Val : Nat := 1603
abbrev pSetTpRf4Day : Nat := 1702
abbrev pSetTpRf4Val : Nat := 1703

end Jincubator.Reg
